import RecordSearch.Proofs.AbsentOperands
import RecordSearch.Proofs.Operators

/-! The two conversions agree. The value that a field has for a member of an operand type is the
value of the scalar that the member is for a filter, and missing where there is no such scalar. So a
filter for what a record holds finds the record, unless what it holds is absent or not a number, and
a filter for the members of a collection finds the collection, however that keeps them. -/
namespace RecordSearch

namespace Binary64

/-- At one place there are only numbers or only what is not a number. -/
lemma isNaN_of_key_eq {x y : Binary64} (h : x.key = y.key) : x.isNaN = y.isNaN := by
  have hmagnitude : x.magnitude.val = y.magnitude.val := by
    rw [key,key] at h
    split_ifs at h <;> omega
  rw [isNaN,isNaN,hmagnitude]

end Binary64

namespace Scalar

lemma isEqual_real {x y : Binary64} (h : x.key = y.key) :
    (number (.real x)).isEqual (.number (.real y)) = !x.isNaN := by
  have hnan := Binary64.isNaN_of_key_eq h
  cases hx : x.isNaN <;>
    simp [isEqual,order?,Number.compare,Number.toBinary64,Binary64.compare,h,hx,← hnan]

/-- A scalar is equal to itself as a value, unless it is not a number. -/
lemma isEqual_toValue (s : Scalar) : s.isEqual s.toValue = !s.isNaN := by
  cases s with
  | number n =>
    cases n with
    | real x => exact isEqual_real rfl
    | _ => simp [isEqual,order?,toValue,isNaN,Number.isNaN,Number.compare]
  | timestamp t => simp [isEqual,order?,toValue,isNaN,Timestamp.compare]
  | _ => simp [isEqual,order?,toValue,isNaN]

end Scalar

namespace OperandType
variable {t : OperandType}

/-- An operand that is not a number, at whatever depth. -/
def isNaN : (t : OperandType) → t.Carrier → Bool
  | single, x => x.isNaN
  | double, x => x.isNaN
  | optional t, v => v.any t.isNaN
  | _, _ => false

/-- What the two conversions make of a member is the same. -/
lemma value_eq (m : t.Carrier) : t.value m = (t.scalar? m).elim .missing Scalar.toValue := by
  induction t with
  | optional t ih =>
    cases m with
    | none => rfl
    | some m => exact ih m
  | _ => rfl

lemma isNaN_of_scalar? {m : t.Carrier} {s : Scalar} (h : t.scalar? m = some s) :
    s.isNaN = t.isNaN m := by
  induction t with
  | optional t ih =>
    obtain ⟨m,rfl,hm⟩ := Option.bind_eq_some_iff.1 h
    exact ih hm
  | _ => cases h; rfl

lemma value_eq_missing_iff (m : t.Carrier) : t.value m = .missing ↔ t.scalar? m = none := by
  rw [value_eq]
  cases t.scalar? m with
  | none => simp
  | some s => cases s <;> simp [Scalar.toValue]

lemma isEqual_value {m : t.Carrier} {s : Scalar} (h : t.scalar? m = some s) :
    s.isEqual (t.value m) = !t.isNaN m := by
  rw [value_eq,h,← isNaN_of_scalar? h]
  exact s.isEqual_toValue

lemma compare_self (m : t.Carrier) : t.compare m m = .eq := by
  induction t with
  | optional t ih =>
    cases m with
    | none => rfl
    | some m => exact ih m
  | _ => exact Std.ReflOrd.compare_self

/-- In most types members at one place are the same, and doubles there are equal as numbers. -/
lemma isEqual_value_of_compare {m m' : t.Carrier} (h : t.compare m m' = .eq) {s : Scalar}
    (hs : t.scalar? m = some s) : s.isEqual (t.value m') = !t.isNaN m := by
  induction t with
  | optional t ih =>
    cases m with
    | none => cases hs
    | some m =>
      cases m' with
      | none => cases h
      | some m' => exact ih h hs
  | single | double =>
    cases hs
    exact Scalar.isEqual_real (Std.LawfulEqOrd.eq_of_compare h)
  | timestamp =>
    have hmillis : m.millis = m'.millis := Std.LawfulEqOrd.eq_of_compare h
    obtain rfl : m = m' := by cases m; cases m'; cases hmillis; rfl
    exact isEqual_value hs
  | _ =>
    obtain rfl := Std.LawfulEqOrd.eq_of_compare h
    exact isEqual_value hs

/-- A member that is there, and is a number if that is its kind. -/
structure Genuine (m : t.Carrier) : Prop where
  present : t.isAbsent m = false
  number : t.isNaN m = false

lemma Genuine.exists_scalar? {m : t.Carrier} (h : Genuine m) : ∃ s, t.scalar? m = some s := by
  rw [← Option.isSome_iff_exists,Option.isSome_iff_ne_none,Ne,scalar?_eq_none_iff,h.present]
  exact Bool.false_ne_true

section
variable (m m' : t.Carrier) (given : List t.Carrier)

lemma mem_insertDistinct (h : m' ∈ given) : m' ∈ t.insertDistinct m given := by
  induction given with
  | nil => cases h
  | cons b bs ih =>
    rw [insertDistinct]
    cases t.compare m b with
    | lt => exact List.mem_cons_of_mem m h
    | eq => exact h
    | gt =>
      obtain rfl | htail := List.mem_cons.1 h
      · exact List.mem_cons_self
      · exact List.mem_cons_of_mem b (ih htail)

/-- What is put into an ascending list stands there, or something at the same place does. -/
lemma exists_mem_insertDistinct : ∃ b ∈ t.insertDistinct m given, t.compare m b = .eq := by
  induction given with
  | nil => exact ⟨m,List.mem_singleton_self m,compare_self m⟩
  | cons b bs ih =>
    rw [insertDistinct]
    cases h : t.compare m b with
    | lt => exact ⟨m,List.mem_cons_self,compare_self m⟩
    | eq => exact ⟨b,List.mem_cons_self,h⟩
    | gt =>
      obtain ⟨c,hc,hmc⟩ := ih
      exact ⟨c,List.mem_cons_of_mem b hc,hmc⟩

end
end OperandType

namespace Container
variable {t : OperandType}

/-- Nothing given to a collection is lost. -/
lemma exists_mem_items (c : Container) {given : List t.Carrier} {m : t.Carrier} (h : m ∈ given) :
    ∃ b ∈ c.items t given, t.compare m b = .eq := by
  cases c with
  | sequence => exact ⟨m,h,OperandType.compare_self m⟩
  | set =>
    induction given with
    | nil => cases h
    | cons a given ih =>
      obtain rfl | htail := List.mem_cons.1 h
      · exact OperandType.exists_mem_insertDistinct m _
      · obtain ⟨b,hb,hmb⟩ := ih htail
        exact ⟨b,OperandType.mem_insertDistinct a b _ hb,hmb⟩

end Container

/-- The values that a collection field can have for the members given to it. A hashed set keeps each
of them once, in any order. -/
inductive Collected (t : OperandType) (given : List t.Carrier) : Value → Prop
  | kept (c : Container) : Collected t given (c.value t (some given))
  | hashed {items : List t.Carrier} (h : items.Perm (Container.set.items t given)) :
      Collected t given (.list (items.map t.value))

namespace CollectionFilter
variable {t : OperandType}

/-- A collection holds whatever was given to it and can be found at all. -/
lemma holds_of_collected {given : List t.Carrier} {v : Value} (h : Collected t given v)
    {m : t.Carrier} (hm : m ∈ given) (genuine : OperandType.Genuine m) : Holds v m := by
  obtain ⟨items,rfl,b,hb,hmb⟩ : ∃ items : List t.Carrier,
      v = .list (items.map t.value) ∧ ∃ b ∈ items, t.compare m b = .eq := by
    cases h with
    | kept c => exact ⟨_,rfl,c.exists_mem_items hm⟩
    | hashed h =>
      obtain ⟨b,hb,hmb⟩ := Container.set.exists_mem_items hm
      exact ⟨_,rfl,b,h.mem_iff.2 hb,hmb⟩
  obtain ⟨s,hs⟩ := genuine.exists_scalar?
  refine ⟨_,rfl,t.value b,List.mem_map_of_mem hb,s,hs,?_⟩
  rw [OperandType.isEqual_value_of_compare hmb hs,genuine.number]
  rfl

/-- A filter with one set that is not empty tests for that set and nothing else. -/
lemma predicate?_run_empty {members : List t.Carrier} (hne : members ≠ []) (mode : SetMode)
    (field : String) : (Addition.run ⟨mode,false,members⟩ empty).predicate? field =
      some (.contains field mode (members.filterMap t.scalar?)) := by
  obtain ⟨m,ms,rfl⟩ := List.exists_cons_of_ne_nil hne
  cases mode <;> rfl

/-- Members that are all held are found, tested for one of them or for all of them. -/
lemma exists_predicate_run_empty {members : List t.Carrier} (hne : members ≠ []) (mode : SetMode)
    (field : String) :
    ∃ p, (Addition.run ⟨mode,false,members⟩ empty).predicate? field = some p ∧
      ∀ {ρ : Type} [Record ρ] (r : ρ), (∀ m ∈ members, Holds (Record.value r field) m) →
        p.holds r = true := by
  refine ⟨_,predicate?_run_empty hne mode field,?_⟩
  intro ρ _ r h
  have hset : (Record.value r field).list?.any (mode.holds (members.filterMap t.scalar?)) =
      true := by
    obtain ⟨m,hm⟩ := List.exists_mem_of_ne_nil members hne
    cases mode with
    | any => exact (any_holds_iff _ members).2 ⟨m,hm,h m hm⟩
    | all => exact all_holds_of_forall _ members hne h
  obtain ⟨items,hr,hitems⟩ := (list?_any _ _).1 hset
  rw [Predicate.holds,hr]
  exact hitems

end CollectionFilter

/-- A filter for what a record holds finds the record. -/
lemma ComparableFilter.exists_predicate_equal {t : OperandType} {m : t.Carrier}
    (genuine : OperandType.Genuine m) (field : String) :
    ∃ p, predicate? { equal := some m } field = some p ∧
      ∀ {ρ : Type} [Record ρ] (r : ρ), Record.value r field = t.value m → p.holds r = true := by
  obtain ⟨s,hs⟩ := genuine.exists_scalar?
  refine ⟨.compare field .eq s,?_,?_⟩
  · rw [predicate?,clauses_equal,show t.toScalarType.scalar? m = some s from hs]
    rfl
  · intro ρ _ r hr
    rw [Predicate.holds,hr,CompareOp.eq_holds,OperandType.isEqual_value hs,genuine.number]
    rfl

namespace OperandType

/-- A member of an operand type is missing as a value exactly if it is no scalar. Otherwise both are
of the kind of the type, and equal unless the member is not a number. So a filter for a member finds
the records that hold it, and a filter for all or any of some members the records that hold
a collection of them. -/
theorem conversions_agree (t : OperandType) :
    (∀ m, t.value m = .missing ↔ t.scalar? m = none) ∧
    (∀ m s, t.scalar? m = some s → s.kind = t.kind ∧ (t.value m).kind? = some t.kind ∧
      s.isEqual (t.value m) = !t.isNaN m) ∧
    (∀ m : t.Carrier, Genuine m → ∀ field,
      ∃ p, ComparableFilter.predicate? { equal := some m } field = some p ∧
        ∀ {ρ : Type} [Record ρ] (r : ρ), Record.value r field = t.value m → p.holds r = true) ∧
    ∀ given : List t.Carrier, given ≠ [] → (∀ m ∈ given, Genuine m) → ∀ field,
      ∃ p q, (CollectionFilter.empty.addAll given).predicate? field = some p ∧
        (CollectionFilter.empty.addAny given).predicate? field = some q ∧
        ∀ {ρ : Type} [Record ρ] (r : ρ), Collected t given (Record.value r field) →
          p.holds r = true ∧ q.holds r = true := by
  refine ⟨value_eq_missing_iff,?_,fun m => ComparableFilter.exists_predicate_equal,?_⟩
  · intro m s hs
    have hkind : s.kind = t.kind := kind_of_scalar? hs
    refine ⟨hkind,?_,isEqual_value hs⟩
    rw [value_eq,hs,← hkind]
    exact s.kind?_toValue
  · intro given hne genuine field
    obtain ⟨p,hp,hall⟩ := CollectionFilter.exists_predicate_run_empty hne .all field
    obtain ⟨q,hq,hany⟩ := CollectionFilter.exists_predicate_run_empty hne .any field
    refine ⟨p,q,hp,hq,?_⟩
    intro ρ _ r hr
    have held : ∀ m ∈ given, CollectionFilter.Holds (Record.value r field) m :=
      fun m hm => CollectionFilter.holds_of_collected hr hm (genuine m hm)
    exact ⟨hall r held,hany r held⟩

/-- A tenth is found as the single that it rounds to, and two ranks in whatever order a hashed set
keeps them. -/
theorem conversions_agree_sample :
    let tenth : Option Binary64 := some (.ofSingleRatio false 1 10)
    let ranks : List Int32 := [2,1,2]
    (Genuine (t := .optional .single) tenth ∧
      ∃ p, ComparableFilter.predicate? (t := OperandType.optional .single) { equal := some tenth } "share" =
        some p ∧ p.holds (Cell.mk ((optional single).value tenth)) = true) ∧
    (∀ m ∈ ranks, Genuine (t := .int32) m) ∧
    ∃ p q, (CollectionFilter.empty (t := OperandType.int32).addAll ranks).predicate? "ranks" = some p ∧
      (CollectionFilter.empty (t := OperandType.int32).addAny ranks).predicate? "ranks" = some q ∧
      p.holds (Cell.mk (.list [.number (.signed 2),.number (.signed 1)])) = true ∧
      q.holds (Cell.mk (.list [.number (.signed 2),.number (.signed 1)])) = true := by
  intro tenth ranks
  have htenth : Genuine (t := .optional .single) tenth := ⟨rfl,by decide +kernel⟩
  have hranks : ∀ m ∈ ranks, Genuine (t := .int32) m := fun _ _ => ⟨rfl,rfl⟩
  have hperm : [2,1].Perm (Container.set.items .int32 ranks) := .swap 1 2 []
  have hhashed : Collected .int32 ranks (.list [.number (.signed 2),.number (.signed 1)]) :=
    .hashed hperm
  obtain ⟨-,-,hequal,-⟩ := conversions_agree (.optional .single)
  obtain ⟨-,-,-,hlists⟩ := conversions_agree .int32
  obtain ⟨p,hp,hfinds⟩ := hequal tenth htenth "share"
  obtain ⟨all,any,hall,hany,hfound⟩ := hlists ranks (List.cons_ne_nil _ _) hranks "ranks"
  exact ⟨⟨htenth,p,hp,hfinds _ rfl⟩,hranks,all,any,hall,hany,hfound (Cell.mk _) hhashed⟩

end OperandType
end RecordSearch

import RecordSearch.Proofs.CollectionConstraints
import RecordSearch.Proofs.Opposites

/-! Operands that are given and absent. An absent operand is compared with nothing, but it has been
given, and a filter that looks only at what it was given is active for it. So a comparable filter
with nothing but absent operands is active and has no predicate, which happens to no other filter;
and a set with nothing but absent members, which is not empty, becomes a test against an empty
set. -/
namespace RecordSearch

/-- An operand that is absent, at whatever depth. -/
def OperandType.isAbsent : (t : OperandType) → t.Carrier → Bool
  | optional t, v => v.all t.isAbsent
  | _, _ => false

namespace OperandType

lemma scalar?_eq_none_iff {t : OperandType} (m : t.Carrier) :
    t.scalar? m = none ↔ t.isAbsent m = true := by
  induction t with
  | optional t ih =>
    cases m with
    | none => exact iff_of_true rfl rfl
    | some m => exact ih m
  | _ => exact iff_of_false (Option.some_ne_none _) Bool.false_ne_true

lemma exists_optional_of_isAbsent {t : OperandType} {m : t.Carrier} (h : t.isAbsent m = true) :
    ∃ u, t = .optional u := by
  cases t with
  | optional u => exact ⟨u,rfl⟩
  | _ => exact absurd h Bool.false_ne_true

end OperandType

namespace ComparableFilter
variable {t : OperandType}

/-- A filter with operands, all of which are absent. -/
structure OnlyAbsent (f : ComparableFilter t) : Prop where
  given : ∃ operand ∈ f.operands, operand.1.isSome = true
  absent : ∀ operand ∈ f.operands, ∀ m, operand.1 = some m → t.isAbsent m = true

lemma onlyAbsent_iff (f : ComparableFilter t) :
    f.OnlyAbsent ↔ f.isActive = true ∧ f.slots.any Option.isSome = false := by
  have hslots : f.slots.any Option.isSome = false ↔
      ∀ operand ∈ f.operands, ∀ m, operand.1 = some m → t.isAbsent m = true := by
    simp only [slots_eq_map,List.any_map,List.any_eq_false,Function.comp_apply,Option.isSome_map,
      Bool.not_eq_true,Option.isSome_eq_false_iff,Option.isNone_iff_eq_none,Option.bind_eq_none_iff,
      OperandType.scalar?_eq_none_iff]
  rw [hslots,isActive,List.any_eq_true]
  constructor
  · intro h; exact ⟨h.given,h.absent⟩
  · intro h; exact ⟨h.1,h.2⟩

lemma OnlyAbsent.exists_optional {f : ComparableFilter t} (h : f.OnlyAbsent) :
    ∃ u, t = .optional u := by
  obtain ⟨operand,hmem,hgiven⟩ := h.given
  obtain ⟨m,hm⟩ := Option.isSome_iff_exists.1 hgiven
  exact OperandType.exists_optional_of_isAbsent (h.absent operand hmem m hm)

end ComparableFilter

namespace Filter

lemma Provided.exists_madeOf {f : Filter} (h : f.Provided) : ∃ slots, f.MadeOf slots := by
  cases h with
  | text f => exact ⟨_,.text f⟩
  | comparable f => exact ⟨_,.comparable f⟩
  | boolean f => exact ⟨_,.boolean f⟩
  | enum f => exact ⟨_,.enum f⟩
  | collection f => exact ⟨_,.collection f⟩

section
variable {f : Filter} {slots : List (Option Clause)}

/-- A filter has a predicate exactly if some clause is set. -/
lemma MadeOf.isSome_predicate? (h : f.MadeOf slots) (field : String) :
    (f.predicate? field).isSome = slots.any Option.isSome := by
  rw [h.predicate?_eq,Predicate.isSome_all?,List.isEmpty_map,Clause.isEmpty_reduceOption,
    Bool.not_not]

lemma MadeOf.isActive_of_predicate (h : f.MadeOf slots) {field : String} {p : Predicate}
    (hp : f.predicate? field = some p) : f.isActive = true := by
  apply h.isActive
  rw [← h.isSome_predicate? field,hp]
  rfl

lemma MadeOf.predicate?_eq_none (h : f.MadeOf slots) (inactive : f.isActive = false)
    (field : String) : f.predicate? field = none := by
  cases hp : f.predicate? field with
  | none => rfl
  | some p => exact absurd (inactive.symm.trans (h.isActive_of_predicate hp)) Bool.false_ne_true

end

/-- Activity is what some clause being set comes down to, but for absent operands. -/
lemma Provided.isActive_eq_or {f : Filter} (h : f.Provided) :
    (∃ slots, f.MadeOf slots ∧ f.isActive = slots.any Option.isSome) ∨
      ∃ (t : OperandType) (g : ComparableFilter t), f = g.toFilter := by
  cases h with
  | comparable f => exact .inr ⟨_,f,rfl⟩
  | text f => exact .inl ⟨_,.text f,f.isActive_eq⟩
  | boolean f => exact .inl ⟨_,.boolean f,f.isActive_eq⟩
  | enum f => exact .inl ⟨_,.enum f,f.isActive_eq⟩
  | collection f => exact .inl ⟨_,.collection f,f.isActive_eq⟩

/-- A filter with a predicate is active. The other way round there is one exception, a comparable
filter whose operands can be absent, has some operands, and has only absent ones: it is active and
has no predicate for any field. -/
theorem Provided.active_without_predicate_iff {f : Filter} (h : f.Provided) (field : String) :
    ((∃ p, f.predicate? field = some p) → f.isActive = true) ∧
    (f.isActive = true ∧ f.predicate? field = none ↔
      ∃ (u : OperandType) (g : ComparableFilter (OperandType.optional u)),
        f = g.toFilter ∧ g.OnlyAbsent) := by
  refine ⟨?_,?_,?_⟩
  · rintro ⟨p,hp⟩
    obtain ⟨slots,made⟩ := h.exists_madeOf
    exact made.isActive_of_predicate hp
  · rintro ⟨active,hnone⟩
    have hset {slots : List (Option Clause)} (made : f.MadeOf slots) :
        slots.any Option.isSome = false := by
      rw [← made.isSome_predicate? field,hnone]
      rfl
    obtain ⟨slots,made,hslots⟩ | ⟨t,g,rfl⟩ := h.isActive_eq_or
    · exact absurd (active.symm.trans (hslots.trans (hset made))) (by decide)
    · have only : g.OnlyAbsent := g.onlyAbsent_iff.2 ⟨active,hset (.comparable g)⟩
      obtain ⟨u,rfl⟩ := only.exists_optional
      exact ⟨u,g,rfl,only⟩
  · rintro ⟨u,g,rfl,only⟩
    obtain ⟨active,hset⟩ := g.onlyAbsent_iff.1 only
    have hnone := (MadeOf.comparable g).isSome_predicate? field
    rw [hset,Option.isSome_eq_false_iff,Option.isNone_iff_eq_none] at hnone
    exact ⟨active,hnone⟩

/-- An absent operand beside one that is there does no harm. -/
theorem Provided.active_without_predicate_iff_sample :
    let absent : ComparableFilter (OperandType.optional .int32) :=
      { equal := some none, lessThan := some none }
    let mixed : ComparableFilter (OperandType.optional .int32) :=
      { equal := some none, lessThan := some (some 5) }
    (absent.toFilter.Provided ∧ absent.isActive = true ∧ absent.predicate? "rank" = none) ∧
    mixed.toFilter.Provided ∧ (∃ p, mixed.predicate? "rank" = some p) ∧ mixed.isActive = true := by
  intro absent mixed
  obtain ⟨-,habsent⟩ := (Provided.comparable absent).active_without_predicate_iff "rank"
  obtain ⟨hmixed,-⟩ := (Provided.comparable mixed).active_without_predicate_iff "rank"
  have only : absent.OnlyAbsent := by
    refine ⟨⟨_,.head _,rfl⟩,?_⟩
    simp [absent,ComparableFilter.operands,OperandType.isAbsent]
  obtain ⟨active,hnone⟩ := habsent.2 ⟨.int32,absent,rfl,only⟩
  exact ⟨⟨.comparable absent,active,hnone⟩,.comparable mixed,⟨_,rfl⟩,hmixed ⟨_,rfl⟩⟩

/-- A filter for ranks equal to an absent one is active and asks nothing of any field. -/
theorem not_active_iff_exists_predicate :
    ¬ ∀ {f : Filter}, f.Provided → ∀ field,
      (f.isActive = true ↔ ∃ p, f.predicate? field = some p) := by
  intro h
  let f : ComparableFilter (OperandType.optional .int32) := { equal := some none }
  obtain ⟨p,hp⟩ := (h (.comparable f) "rank").1 rfl
  cases hp

end Filter

namespace Predicate

/-- The tests in a group are those in its members. -/
lemma leaves_of_all? {ps : List Predicate} {p : Predicate} (h : all? ps = some p) :
    p.leaves = ps.flatMap leaves := by
  rcases ps with _ | ⟨q,_ | ⟨q',qs⟩⟩
  · cases h
  · cases h; simp
  · cases h; exact leavesOfAll_eq _

end Predicate

namespace CollectionFilter

section
variable {t : ScalarType}

lemma mem_operands {f : CollectionFilter t} {set : List t.Carrier} {mode : SetMode}
    {negated : Bool} : (set,mode,negated) ∈ f.operands ↔ set = f.set mode negated := by
  cases mode <;> cases negated <;> simp [operands,CollectionFilter.set]

lemma leaves_clause (field : String) (operand : List t.Carrier × SetMode × Bool) :
    (clause field operand).leaves =
      [.contains field operand.2.1 (operand.1.filterMap t.scalar?)] := by
  obtain ⟨set,mode,negated⟩ := operand
  cases negated <;> rfl

/-- The tests of a filter are against its sets, those of them that are not empty, without their
absent members. -/
lemma mem_leaves_iff {f : CollectionFilter t} {field : String} {p : Predicate}
    (h : f.predicate? field = some p) (leaf : Predicate) : leaf ∈ p.leaves ↔
      ∃ mode negated, f.set mode negated ≠ [] ∧
        leaf = .contains field mode ((f.set mode negated).filterMap t.scalar?) := by
  rw [Predicate.leaves_of_all? h,clauses]
  simp only [List.flatMap_map,leaves_clause,List.mem_flatMap,List.mem_singleton,List.mem_filter,
    Prod.exists,mem_operands,Bool.not_eq_true',List.isEmpty_eq_false_iff]
  constructor
  · rintro ⟨set,mode,negated,⟨rfl,hne⟩,hleaf⟩
    exact ⟨mode,negated,hne,hleaf⟩
  · rintro ⟨mode,negated,hne,hleaf⟩
    exact ⟨_,mode,negated,⟨rfl,hne⟩,hleaf⟩

end

variable {t : OperandType}

/-- One of the sets, with members that are all absent. -/
structure Emptied (f : CollectionFilter t) (mode : SetMode) (negated : Bool) : Prop where
  given : f.set mode negated ≠ []
  absent : ∀ m ∈ f.set mode negated, t.isAbsent m = true

section
variable {f : CollectionFilter t} {mode : SetMode} {negated : Bool}

lemma Emptied.exists_optional (h : f.Emptied mode negated) : ∃ u, t = .optional u := by
  obtain ⟨m,hm⟩ := List.exists_mem_of_ne_nil _ h.given
  exact OperandType.exists_optional_of_isAbsent (h.absent m hm)

/-- Nothing of an emptied set is left to compare with. -/
lemma emptied_iff : f.Emptied mode negated ↔
    f.set mode negated ≠ [] ∧ (f.set mode negated).filterMap t.scalar? = [] := by
  rw [List.filterMap_eq_nil_iff]
  simp only [OperandType.scalar?_eq_none_iff]
  constructor
  · intro h; exact ⟨h.given,h.absent⟩
  · intro h; exact ⟨h.1,h.2⟩

lemma Emptied.isActive (h : f.Emptied mode negated) : f.isActive = true := by
  obtain ⟨m,hm⟩ := List.exists_mem_of_ne_nil _ h.given
  exact f.isActive_iff_set.2 ⟨mode,negated,m,hm⟩

end

/-- What an emptied set asks for in vain. -/
lemma Emptied.holds_eq_false {f : CollectionFilter t} {mode : SetMode} {negated : Bool}
    (h : f.Emptied mode negated) {v : Value}
    (refused : (Clause.contains mode [] negated).admits v = false) :
    f.slots.all (Option.all (Clause.admits v)) = false := by
  obtain ⟨hgiven,hnil⟩ := emptied_iff.1 h
  have hslot : slot (f.set mode negated,mode,negated) = some (.contains mode [] negated) := by
    rw [slot,hnil,Clause.unlessEmpty,if_neg (by simpa using hgiven)]
  have hmem : some (Clause.contains mode [] negated) ∈ f.slots := by
    have hslots : f.slots = f.operands.map slot := rfl
    rw [hslots,← hslot]
    exact List.mem_map_of_mem (mem_operands.2 rfl)
  rw [List.all_eq_false]
  exact ⟨_,hmem,by simp [refused]⟩

/-- A filter tests against an empty set exactly if one of its sets is emptied, which takes operands
that can be absent. To ask for some member of such a set then refuses every record, and to rule out
all of its members together refuses every list. -/
theorem empty_contains_iff (f : CollectionFilter t) (field : String) :
    ((∃ p, f.predicate? field = some p ∧
        ∃ field' mode, Predicate.contains field' mode [] ∈ p.leaves) ↔
      ∃ mode negated, f.Emptied mode negated) ∧
    (∀ mode negated, f.Emptied mode negated → ∃ u, t = .optional u) ∧
    (f.Emptied .any false → ∃ p, f.predicate? field = some p ∧
      ∀ {ρ : Type} [Record ρ] (r : ρ), p.holds r = false) ∧
    (f.Emptied .all true → ∃ p, f.predicate? field = some p ∧
      ∀ {ρ : Type} [Record ρ] (r : ρ) (items : List Value),
        Record.value r field = .list items → p.holds r = false) := by
  have built (active : f.isActive = true) :=
    (Filter.MadeOf.collection f).exists_predicate (f.isActive_eq.symm.trans active) field
  refine ⟨⟨?_,?_⟩,fun _ _ h => h.exists_optional,?_,?_⟩
  · rintro ⟨p,hp,field',mode,hleaf⟩
    obtain ⟨mode',negated,hne,heq⟩ := (mem_leaves_iff hp _).1 hleaf
    obtain ⟨-,-,hnil⟩ := Predicate.contains.inj heq
    exact ⟨mode',negated,emptied_iff.2 ⟨hne,hnil.symm⟩⟩
  · rintro ⟨mode,negated,h⟩
    obtain ⟨p,hp,-⟩ := built h.isActive
    obtain ⟨hne,hnil⟩ := emptied_iff.1 h
    exact ⟨p,hp,field,mode,(mem_leaves_iff hp _).2 ⟨mode,negated,hne,by rw [hnil]⟩⟩
  · intro h
    obtain ⟨p,hp,hholds⟩ := built h.isActive
    refine ⟨p,hp,?_⟩
    intro ρ _ r
    rw [hholds]
    apply h.holds_eq_false
    cases Record.value r field <;> simp [Clause.admits,Value.list?,SetMode.holds]
  · intro h
    obtain ⟨p,hp,hholds⟩ := built h.isActive
    refine ⟨p,hp,?_⟩
    intro ρ _ r items hr
    rw [hholds,hr]
    exact h.holds_eq_false rfl

/-- An absent member counts for a set beside others, and alone it refuses what it should not. -/
theorem empty_contains_iff_sample :
    let wanted : CollectionFilter (OperandType.optional .int32) :=
      { containsAny := [none,none], containsAll := [none,some 5] }
    let unwanted : CollectionFilter (OperandType.optional .int32) :=
      { containsNotAny := [some 3], containsNotAll := [none] }
    (wanted.Emptied .any false ∧
      (∃ p, wanted.predicate? "codes" = some p ∧
        ∃ field mode, Predicate.contains field mode [] ∈ p.leaves) ∧
      ∃ p, wanted.predicate? "codes" = some p ∧
        p.holds (Cell.mk (.list [.number (.signed 5)])) = false) ∧
    unwanted.Emptied .all true ∧ (∃ u, OperandType.optional .int32 = .optional u) ∧
      ∃ p, unwanted.predicate? "codes" = some p ∧ p.holds (Cell.mk (.list [])) = false := by
  intro wanted unwanted
  have hwanted : wanted.Emptied .any false := by
    refine ⟨List.cons_ne_nil _ _,?_⟩
    simp [wanted,CollectionFilter.set,OperandType.isAbsent]
  have hunwanted : unwanted.Emptied .all true := by
    refine ⟨List.cons_ne_nil _ _,?_⟩
    simp [unwanted,CollectionFilter.set,OperandType.isAbsent]
  obtain ⟨htests,-,hany,-⟩ := wanted.empty_contains_iff "codes"
  obtain ⟨-,hoptional,-,hall⟩ := unwanted.empty_contains_iff "codes"
  obtain ⟨p,hp,hnone⟩ := hany hwanted
  obtain ⟨q,hq,hlists⟩ := hall hunwanted
  exact ⟨⟨hwanted,htests.2 ⟨.any,false,hwanted⟩,p,hp,hnone _⟩,hunwanted,
    hoptional _ _ hunwanted,q,hq,hlists _ _ rfl⟩

/-- A filter for lists with an absent member tests against an empty set. -/
theorem not_contains_ne_nil :
    ¬ ∀ {t : OperandType} (f : CollectionFilter t) (field : String) (p : Predicate),
      f.predicate? field = some p → ∀ field' mode set,
        Predicate.contains field' mode set ∈ p.leaves → set ≠ [] := by
  intro h
  let f : CollectionFilter (OperandType.optional .int32) := { containsAny := [none] }
  exact h f "codes" _ rfl "codes" .any [] (List.mem_singleton_self _) rfl

end CollectionFilter
end RecordSearch

import RecordSearch.Proofs.Clauses
import RecordSearch.Proofs.Comparison

/-! What a collection filter says of a list. Each of its sets is compared with the elements of the
list, by the equality of scalars and values, and an empty set is not compared with anything. So it
only matters which members the sets have, and more of them narrow or widen what is admitted,
according to the set. -/
namespace RecordSearch

/-- A type of operands none of which is absent. -/
def ScalarType.Total (t : ScalarType) : Prop := ∀ m, ∃ s, t.scalar? m = some s

lemma OperandType.total_iff (t : OperandType) :
    t.toScalarType.Total ↔ ∀ u, t ≠ .optional u := by
  constructor
  · rintro total u rfl
    obtain ⟨s,hs⟩ := total none
    cases hs
  · intro single m
    cases t with
    | optional u => exact absurd rfl (single u)
    | _ => exact ⟨_,rfl⟩

/-- One predicate holds wherever another does. -/
def Predicate.Implies (p q : Predicate) : Prop :=
  ∀ {ρ : Type} [Record ρ] (r : ρ), p.holds r = true → q.holds r = true

namespace CollectionFilter
variable {t : ScalarType}

/-- A value that is a list with an element equal to an operand. -/
def Holds (v : Value) (m : t.Carrier) : Prop :=
  ∃ items, v = .list items ∧ ∃ item ∈ items, ∃ s, t.scalar? m = some s ∧ s.isEqual item = true

/-- What a filter says of a value. -/
structure Admits (f : CollectionFilter t) (v : Value) : Prop where
  containsAny : f.containsAny = [] ∨ ∃ m ∈ f.containsAny, Holds v m
  containsAll : ∀ m ∈ f.containsAll, Holds v m
  containsNotAny : ∀ m ∈ f.containsNotAny, ¬ Holds v m
  containsNotAll : f.containsNotAll = [] ∨ ∃ m ∈ f.containsNotAll, ¬ Holds v m

section
variable (v : Value) (set : List t.Carrier)

lemma list?_any (test : List Value → Bool) :
    v.list?.any test = true ↔ ∃ items, v = .list items ∧ test items = true := by
  cases v <;> simp [Value.list?]

/-- Absent members are equal to nothing, so one of the others has to be found. -/
lemma any_holds_iff :
    v.list?.any (SetMode.any.holds (set.filterMap t.scalar?)) = true ↔ ∃ m ∈ set, Holds v m := by
  simp only [list?_any,SetMode.holds,List.any_eq_true,List.mem_filterMap]
  constructor
  · rintro ⟨items,hv,item,hitem,s,⟨m,hm,hs⟩,heq⟩
    exact ⟨m,hm,items,hv,item,hitem,s,hs,heq⟩
  · rintro ⟨m,hm,items,hv,item,hitem,s,hs,heq⟩
    exact ⟨items,hv,item,hitem,s,⟨m,hm,hs⟩,heq⟩

lemma all_holds_of_forall (hset : set ≠ []) (h : ∀ m ∈ set, Holds v m) :
    v.list?.any (SetMode.all.holds (set.filterMap t.scalar?)) = true := by
  simp only [list?_any,SetMode.holds,List.all_eq_true,List.any_eq_true,List.mem_filterMap]
  obtain ⟨m,hm⟩ := List.exists_mem_of_ne_nil set hset
  obtain ⟨items,hv,-⟩ := h m hm
  refine ⟨items,hv,?_⟩
  rintro s ⟨m,hm,hs⟩
  obtain ⟨items',hv',item,hitem,s',hs',heq⟩ := h m hm
  cases hv.symm.trans hv'
  cases hs.symm.trans hs'
  exact ⟨item,hitem,heq⟩

/-- No member is absent, so all of them have to be found. -/
lemma all_holds_iff (total : t.Total) (hset : set ≠ []) :
    v.list?.any (SetMode.all.holds (set.filterMap t.scalar?)) = true ↔ ∀ m ∈ set, Holds v m := by
  refine ⟨?_,all_holds_of_forall v set hset⟩
  simp only [list?_any,SetMode.holds,List.all_eq_true,List.any_eq_true,List.mem_filterMap]
  rintro ⟨items,hv,hall⟩ m hm
  obtain ⟨s,hs⟩ := total m
  obtain ⟨item,hitem,heq⟩ := hall s ⟨m,hm,hs⟩
  exact ⟨items,hv,item,hitem,s,hs,heq⟩

lemma all_slot_any :
    (slot (set,.any,false)).all (Clause.admits v) = true ↔ set = [] ∨ ∃ m ∈ set, Holds v m := by
  rw [slot,Clause.all_unlessEmpty,Clause.admits,Bool.bne_false,any_holds_iff]

/-- An empty set needs no exception where all of its members are looked at. -/
lemma all_slot_all (total : t.Total) :
    (slot (set,.all,false)).all (Clause.admits v) = true ↔ ∀ m ∈ set, Holds v m := by
  rw [slot,Clause.all_unlessEmpty,Clause.admits,Bool.bne_false]
  by_cases hset : set = []
  · simp [hset]
  · simp only [hset,false_or,all_holds_iff v set total hset]

lemma all_slot_notAny :
    (slot (set,.any,true)).all (Clause.admits v) = true ↔ ∀ m ∈ set, ¬ Holds v m := by
  rw [slot,Clause.all_unlessEmpty,Clause.admits,Bool.bne_true,Bool.not_eq_true',← Bool.not_eq_true,
    any_holds_iff]
  by_cases hset : set = []
  · simp [hset]
  · simp [hset]

lemma all_slot_notAll (total : t.Total) :
    (slot (set,.all,true)).all (Clause.admits v) = true ↔ set = [] ∨ ∃ m ∈ set, ¬ Holds v m := by
  rw [slot,Clause.all_unlessEmpty,Clause.admits,Bool.bne_true,Bool.not_eq_true',← Bool.not_eq_true]
  by_cases hset : set = []
  · simp [hset]
  · simp only [hset,false_or,all_holds_iff v set total hset,not_forall,exists_prop]

end

lemma all_slots_iff (total : t.Total) (f : CollectionFilter t) (v : Value) :
    f.slots.all (Option.all (Clause.admits v)) = true ↔ f.Admits v := by
  simp only [slots,List.all_cons,List.all_nil,Bool.and_true,Bool.and_eq_true,all_slot_any,
    all_slot_all v _ total,all_slot_notAny,all_slot_notAll v _ total]
  constructor
  · rintro ⟨containsAny,containsAll,containsNotAny,containsNotAll⟩
    exact ⟨containsAny,containsAll,containsNotAny,containsNotAll⟩
  · intro h
    exact ⟨h.containsAny,h.containsAll,h.containsNotAny,h.containsNotAll⟩

/-- The predicate of a filter for a field, as far as it is right. -/
structure Asks (f : CollectionFilter t) (field : String) (p : Predicate) : Prop where
  predicate? : f.predicate? field = some p
  holds_iff : ∀ {ρ : Type} [Record ρ] (r : ρ), p.holds r = true ↔ f.Admits (Record.value r field)

lemma exists_asks (total : t.Total) {f : CollectionFilter t}
    (active : f.isActive = true) (field : String) : ∃ p, f.Asks field p := by
  rw [isActive_eq] at active
  obtain ⟨p,hp,hholds⟩ := (Filter.MadeOf.collection f).exists_predicate active field
  refine ⟨p,hp,?_⟩
  intro ρ _ r
  rw [hholds,all_slots_iff total]

/-- A filter that asks no more than another: its lists are the shorter ones where all members are
looked at, and the longer ones where one is enough, unless they are empty. -/
structure Weaker (f g : CollectionFilter t) : Prop where
  containsAny : g.containsAny ⊆ f.containsAny
  containsAny_nil : g.containsAny = [] → f.containsAny = []
  containsAll : f.containsAll ⊆ g.containsAll
  containsNotAny : f.containsNotAny ⊆ g.containsNotAny
  containsNotAll : g.containsNotAll ⊆ f.containsNotAll
  containsNotAll_nil : g.containsNotAll = [] → f.containsNotAll = []

lemma Weaker.admits {f g : CollectionFilter t} (h : f.Weaker g) {v : Value} (hg : g.Admits v) :
    f.Admits v where
  containsAny := by
    obtain hnil | ⟨m,hm,hv⟩ := hg.containsAny
    · exact .inl (h.containsAny_nil hnil)
    · exact .inr ⟨m,h.containsAny hm,hv⟩
  containsAll m hm := hg.containsAll m (h.containsAll hm)
  containsNotAny m hm := hg.containsNotAny m (h.containsNotAny hm)
  containsNotAll := by
    obtain hnil | ⟨m,hm,hv⟩ := hg.containsNotAll
    · exact .inl (h.containsNotAll_nil hnil)
    · exact .inr ⟨m,h.containsNotAll hm,hv⟩

lemma Weaker.implies {f g : CollectionFilter t} (h : f.Weaker g) {field : String}
    {p q : Predicate} (hp : f.Asks field p) (hq : g.Asks field q) : q.Implies p :=
  fun r hr => (hp.holds_iff r).2 (h.admits ((hq.holds_iff r).1 hr))

lemma Weaker.refl (f : CollectionFilter t) : f.Weaker f :=
  ⟨fun _ => id,id,fun _ => id,fun _ => id,fun _ => id,id⟩

section
variable (f : CollectionFilter t) (ms : List t.Carrier)

lemma weaker_addAll : f.Weaker (f.addAll ms) :=
  { Weaker.refl f with containsAll := List.subset_append_left _ _ }

lemma weaker_addNotAny : f.Weaker (f.addNotAny ms) :=
  { Weaker.refl f with containsNotAny := List.subset_append_left _ _ }

/-- Something more to find in a set asks less, but to a set that is empty it asks more. -/
lemma addAny_weaker (h : f.containsAny ≠ []) : (f.addAny ms).Weaker f :=
  { Weaker.refl f with
    containsAny := List.subset_append_left _ _
    containsAny_nil := fun hnil => absurd hnil h }

lemma addNotAll_weaker (h : f.containsNotAll ≠ []) : (f.addNotAll ms).Weaker f :=
  { Weaker.refl f with
    containsNotAll := List.subset_append_left _ _
    containsNotAll_nil := fun hnil => absurd hnil h }

end

/-- One of the four sets. -/
def set (f : CollectionFilter t) : SetMode → Bool → List t.Carrier
  | .any, false => f.containsAny
  | .all, false => f.containsAll
  | .any, true => f.containsNotAny
  | .all, true => f.containsNotAll

/-- The sets of two filters have the same members, in whatever order and number. -/
def SameMembers (f g : CollectionFilter t) : Prop :=
  ∀ mode negated m, m ∈ f.set mode negated ↔ m ∈ g.set mode negated

lemma isActive_iff_set (f : CollectionFilter t) :
    f.isActive = true ↔ ∃ mode negated m, m ∈ f.set mode negated := by
  simp only [isActive,operands,List.any_cons,List.any_nil,Bool.or_false,Bool.or_eq_true,
    Bool.not_eq_true',List.isEmpty_eq_false_iff_exists_mem]
  constructor
  · rintro (h | h | h | h)
    · exact ⟨.any,false,h⟩
    · exact ⟨.all,false,h⟩
    · exact ⟨.any,true,h⟩
    · exact ⟨.all,true,h⟩
  · rintro ⟨_ | _,_ | _,h⟩
    · exact .inl h
    · exact .inr (.inr (.inl h))
    · exact .inr (.inl h)
    · exact .inr (.inr (.inr h))

lemma SameMembers.symm {f g : CollectionFilter t} (h : f.SameMembers g) : g.SameMembers f :=
  fun mode negated m => (h mode negated m).symm

lemma SameMembers.isActive {f g : CollectionFilter t} (h : f.SameMembers g)
    (active : f.isActive = true) : g.isActive = true := by
  obtain ⟨mode,negated,m,hm⟩ := f.isActive_iff_set.1 active
  exact g.isActive_iff_set.2 ⟨mode,negated,m,(h mode negated m).1 hm⟩

lemma SameMembers.weaker {f g : CollectionFilter t} (h : f.SameMembers g) : f.Weaker g := by
  have hnil : ∀ mode negated, g.set mode negated = [] → f.set mode negated = [] := by
    intro mode negated hg
    rw [List.eq_nil_iff_forall_not_mem] at hg ⊢
    exact fun m hm => hg m ((h mode negated m).1 hm)
  exact {
    containsAny := fun m => (h .any false m).2
    containsAny_nil := hnil .any false
    containsAll := fun m => (h .all false m).1
    containsNotAny := fun m => (h .any true m).1
    containsNotAll := fun m => (h .all true m).2
    containsNotAll_nil := hnil .all true }

/-- A call that adds members to one of the sets. -/
structure Addition (t : ScalarType) where
  mode : SetMode
  negated : Bool
  members : List t.Carrier

namespace Addition

def run (call : Addition t) (f : CollectionFilter t) : CollectionFilter t :=
  match call.mode, call.negated with
  | .any, false => f.addAny call.members
  | .all, false => f.addAll call.members
  | .any, true => f.addNotAny call.members
  | .all, true => f.addNotAll call.members

/-- What a call adds to one of the sets. -/
def added (call : Addition t) (mode : SetMode) (negated : Bool) : List t.Carrier :=
  if call.mode = mode ∧ call.negated = negated then call.members else []

lemma set_run (call : Addition t) (f : CollectionFilter t) (mode : SetMode) (negated : Bool) :
    (call.run f).set mode negated = f.set mode negated ++ call.added mode negated := by
  obtain ⟨mode',negated',members⟩ := call
  cases mode' <;> cases negated' <;> cases mode <;> cases negated <;>
    simp [run,added,set,addAny,addAll,addNotAny,addNotAll]

end Addition

/-- The filter after some calls. -/
def grown (f : CollectionFilter t) (calls : List (Addition t)) : CollectionFilter t :=
  calls.foldl (fun f call => call.run f) f

/-- Calls add up, however the members are divided among them. -/
lemma set_grown (f : CollectionFilter t) (calls : List (Addition t)) (mode : SetMode)
    (negated : Bool) : (f.grown calls).set mode negated =
      f.set mode negated ++ calls.flatMap (Addition.added · mode negated) := by
  induction calls generalizing f with
  | nil => simp [grown]
  | cons call calls ih =>
    change ((call.run f).grown calls).set mode negated = _
    rw [ih,Addition.set_run,List.flatMap_cons,List.append_assoc]

lemma isActive_run {f : CollectionFilter t} (active : f.isActive = true) (call : Addition t) :
    (call.run f).isActive = true := by
  obtain ⟨mode,negated,m,hm⟩ := f.isActive_iff_set.1 active
  refine (call.run f).isActive_iff_set.2 ⟨mode,negated,m,?_⟩
  rw [Addition.set_run]
  exact List.mem_append_left _ hm

/-- An active filter whose operands cannot be absent has a predicate for every field. It holds of a
record exactly if the value there, list or not, has an element equal to some member of the first set
unless that is empty, to every member of the second, to no member of the third, and not to every
member of the fourth unless that is empty. So neither the order of the members matters nor
repetition, nor how they are divided among calls. More members of the second and third set only drop
records, and more members of the others, unless these are empty, only add some. -/
theorem predicate_of_collection (total : t.Total) {f : CollectionFilter t}
    (active : f.isActive = true) (field : String) :
    ∃ p, f.predicate? field = some p ∧
      (∀ {ρ : Type} [Record ρ] (r : ρ), p.holds r = true ↔ f.Admits (Record.value r field)) ∧
      (∀ g, f.SameMembers g → ∃ q, g.predicate? field = some q ∧ q.Implies p ∧ p.Implies q) ∧
      (∀ (e : CollectionFilter t) (calls calls' : List (Addition t)), f = e.grown calls →
        (∀ mode negated m, m ∈ calls.flatMap (Addition.added · mode negated) ↔
          m ∈ calls'.flatMap (Addition.added · mode negated)) →
        ∃ q, (e.grown calls').predicate? field = some q ∧ q.Implies p ∧ p.Implies q) ∧
      ∀ ms,
        (∃ q, (f.addAll ms).predicate? field = some q ∧ q.Implies p) ∧
        (∃ q, (f.addNotAny ms).predicate? field = some q ∧ q.Implies p) ∧
        (f.containsAny ≠ [] → ∃ q, (f.addAny ms).predicate? field = some q ∧ p.Implies q) ∧
        (f.containsNotAll ≠ [] →
          ∃ q, (f.addNotAll ms).predicate? field = some q ∧ p.Implies q) := by
  obtain ⟨p,hp⟩ := exists_asks total active field
  have same (g : CollectionFilter t) (h : f.SameMembers g) :
      ∃ q, g.predicate? field = some q ∧ q.Implies p ∧ p.Implies q := by
    obtain ⟨q,hq⟩ := exists_asks total (h.isActive active) field
    exact ⟨q,hq.predicate?,h.weaker.implies hp hq,h.symm.weaker.implies hq hp⟩
  have after (call : Addition t) : ∃ q, (call.run f).Asks field q :=
    exists_asks total (isActive_run active call) field
  refine ⟨p,hp.predicate?,hp.holds_iff,same,?_,?_⟩
  · rintro e calls calls' rfl hcalls
    apply same
    intro mode negated m
    rw [set_grown,set_grown,List.mem_append,List.mem_append,hcalls]
  · intro ms
    refine ⟨?_,?_,?_,?_⟩
    · obtain ⟨q,hq⟩ := after ⟨.all,false,ms⟩
      exact ⟨q,hq.predicate?,(f.weaker_addAll ms).implies hp hq⟩
    · obtain ⟨q,hq⟩ := after ⟨.any,true,ms⟩
      exact ⟨q,hq.predicate?,(f.weaker_addNotAny ms).implies hp hq⟩
    · intro hset
      obtain ⟨q,hq⟩ := after ⟨.any,false,ms⟩
      exact ⟨q,hq.predicate?,(f.addAny_weaker ms hset).implies hq hp⟩
    · intro hset
      obtain ⟨q,hq⟩ := after ⟨.all,true,ms⟩
      exact ⟨q,hq.predicate?,(f.addNotAll_weaker ms hset).implies hq hp⟩

namespace Sample

/-- What makes a filter for lists with a 2, with a 7 or a 2, without a 3, and without a 9 or a 2. -/
def calls : List (Addition OperandType.int32) :=
  [⟨.any,false,[7,2]⟩,⟨.all,false,[2,2]⟩,⟨.any,true,[3]⟩,⟨.all,true,[2,9]⟩]

/-- The same members, given piece by piece. -/
def pieces : List (Addition OperandType.int32) :=
  [⟨.all,true,[9]⟩,⟨.any,false,[2]⟩,⟨.all,false,[2]⟩,⟨.all,true,[2,9]⟩,⟨.any,true,[3]⟩,
    ⟨.any,false,[7,2]⟩]

def filter : CollectionFilter OperandType.int32 := empty.grown calls

/-- Of these only the unsigned 2 is equal to a signed word. -/
def items : List Value :=
  [.missing,.number (.unsigned 2),.number (.real .nan),.list [.number (.signed 3)],.string "3",
    .number (.unsigned 2)]

end Sample

open Sample in
/-- The pieces make the same filter, and with a 7 asked for too the list no longer does. -/
theorem predicate_of_collection_sample :
    OperandType.int32.toScalarType.Total ∧ filter.isActive = true ∧
    ∃ p q q', filter.predicate? "codes" = some p ∧ p.holds (Cell.mk (.list items)) = true ∧
      filter.Admits (.list items) ∧
      (empty.grown pieces).predicate? "codes" = some q ∧ q.Implies p ∧ p.Implies q ∧
      (filter.addAll [7]).predicate? "codes" = some q' ∧ q'.Implies p ∧
      q'.holds (Cell.mk (.list items)) = false := by
  have total : OperandType.int32.toScalarType.Total :=
    (OperandType.total_iff .int32).2 fun u h => by cases h
  have active : filter.isActive = true := rfl
  have pieces_of_calls : ∀ mode negated m, m ∈ calls.flatMap (Addition.added · mode negated) ↔
      m ∈ pieces.flatMap (Addition.added · mode negated) := by
    rintro (_ | _) (_ | _) m <;> simp [calls,pieces,Addition.added] <;> tauto
  obtain ⟨p,hp,hadmits,-,hcalls,hmore⟩ := predicate_of_collection total active "codes"
  obtain ⟨q,hq,hqp,hpq⟩ := hcalls empty calls pieces rfl pieces_of_calls
  obtain ⟨⟨q',hq',hfewer⟩,-⟩ := hmore [7]
  have hkept : p.holds (Cell.mk (.list items)) = true := by cases hp; decide +kernel
  have hdropped : q'.holds (Cell.mk (.list items)) = false := by cases hq'; decide +kernel
  exact ⟨total,active,p,q,q',hp,hkept,(hadmits _).1 hkept,hq,hqp,hpq,hq',hfewer,hdropped⟩

end CollectionFilter
end RecordSearch

import RecordSearch.Filter.Boolean
import RecordSearch.Filter.Collection
import RecordSearch.Filter.Comparable
import RecordSearch.Filter.Enumeration
import RecordSearch.Filter.Text
import RecordSearch.Proofs.Grouping
import RecordSearch.Proofs.Selectors

/-! Kinds in predicates. A predicate is a tree over tests of single fields, and each test is written
for a field of some kind. The main statement is that the filters of this library put only tests of
the right kind on the fields that take them. -/
namespace RecordSearch

namespace Predicate

mutual

/-- The tests of single fields in a predicate, from left to right. -/
def leaves : Predicate → List Predicate
  | compare field op operand => [compare field op operand]
  | text field op needle => [text field op needle]
  | pattern field p => [pattern field p]
  | nullOrEmpty field => [nullOrEmpty field]
  | contains field mode set => [contains field mode set]
  | and ps => leavesOfAll ps
  | or ps => leavesOfAll ps
  | not p => leaves p

def leavesOfAll : List Predicate → List Predicate
  | [] => []
  | p :: ps => leaves p ++ leavesOfAll ps

end

@[simp] lemma leavesOfAll_eq (ps : List Predicate) : leavesOfAll ps = ps.flatMap leaves := by
  induction ps with
  | nil => rfl
  | cons p ps ih => simp [leavesOfAll,ih]

/-- Whether a test is written for fields of the declared kind. Groups are no tests. -/
def Fits (schema : Schema) : Predicate → Prop
  | compare field _ operand => schema.kind? field = some operand.kind
  | text field _ _ => schema.kind? field = some .string
  | pattern field _ => schema.kind? field = some .string
  | nullOrEmpty field => schema.kind? field = some .string
  | contains field _ set =>
    schema.kind? field = some .list ∧
      ∀ element, schema.element? field = some element → ∀ v ∈ set, v.kind = element
  | and _ | or _ | not _ => False

def WellKinded (schema : Schema) (p : Predicate) : Prop := ∀ leaf ∈ p.leaves, leaf.Fits schema

section
variable {schema : Schema}

lemma wellKinded_leaf {p : Predicate} (h : p.leaves = [p]) :
    p.WellKinded schema ↔ p.Fits schema := by
  rw [WellKinded,h,List.forall_mem_singleton]

@[simp] lemma wellKinded_compare (field : String) (op : CompareOp) (v : Scalar) :
    (compare field op v).WellKinded schema ↔ schema.kind? field = some v.kind :=
  wellKinded_leaf rfl

@[simp] lemma wellKinded_text (field : String) (op : TextOp) (needle : String) :
    (text field op needle).WellKinded schema ↔ schema.kind? field = some .string :=
  wellKinded_leaf rfl

@[simp] lemma wellKinded_pattern (field : String) (p : Pattern) :
    (pattern field p).WellKinded schema ↔ schema.kind? field = some .string :=
  wellKinded_leaf rfl

@[simp] lemma wellKinded_nullOrEmpty (field : String) :
    (nullOrEmpty field).WellKinded schema ↔ schema.kind? field = some .string :=
  wellKinded_leaf rfl

@[simp] lemma wellKinded_contains (field : String) (mode : SetMode) (set : List Scalar) :
    (contains field mode set).WellKinded schema ↔ schema.kind? field = some .list ∧
      ∀ element, schema.element? field = some element → ∀ v ∈ set, v.kind = element :=
  wellKinded_leaf rfl

lemma wellKinded_group {p : Predicate} {ps : List Predicate} (h : p.leaves = leavesOfAll ps) :
    p.WellKinded schema ↔ ∀ q ∈ ps, q.WellKinded schema := by
  rw [WellKinded,h,leavesOfAll_eq,List.forall_mem_flatMap]
  rfl

@[simp] lemma wellKinded_and (ps : List Predicate) :
    (and ps).WellKinded schema ↔ ∀ p ∈ ps, p.WellKinded schema := wellKinded_group rfl

@[simp] lemma wellKinded_or (ps : List Predicate) :
    (or ps).WellKinded schema ↔ ∀ p ∈ ps, p.WellKinded schema := wellKinded_group rfl

@[simp] lemma wellKinded_not (p : Predicate) :
    (not p).WellKinded schema ↔ p.WellKinded schema := Iff.rfl

@[simp] lemma wellKinded_negate (p : Predicate) :
    p.negate.WellKinded schema ↔ p.WellKinded schema := by
  cases p <;> simp [negate]

/-- Grouping keeps the kinds of what it groups. -/
lemma wellKinded_of_all? {ps : List Predicate} {p : Predicate} (h : all? ps = some p)
    (hps : ∀ q ∈ ps, q.WellKinded schema) : p.WellKinded schema :=
  of_group? (fun _ => (wellKinded_and ps).2) h hps

lemma wellKinded_of_any? {ps : List Predicate} {p : Predicate} (h : any? ps = some p)
    (hps : ∀ q ∈ ps, q.WellKinded schema) : p.WellKinded schema :=
  of_group? (fun _ => (wellKinded_or ps).2) h hps

lemma wellKinded_of_combine {mode : ApplyMode} {ps : List Predicate} {p : Predicate}
    (h : mode.combine ps = some p) (hps : ∀ q ∈ ps, q.WellKinded schema) : p.WellKinded schema := by
  cases mode with
  | and => exact wellKinded_of_all? h hps
  | or => exact wellKinded_of_any? h hps

end
end Predicate

/-- The filters that this library provides, over operands of the usual types. -/
inductive Filter.Provided : Filter → Prop
  | text (f : TextFilter) : Provided f.toFilter
  | comparable {t : OperandType} (f : ComparableFilter t) : Provided f.toFilter
  | boolean (f : BooleanFilter) : Provided f.toFilter
  | enum (f : EnumFilter) : Provided f.toFilter
  | collection {t : OperandType} (f : CollectionFilter t) : Provided f.toFilter

section
variable {schema : Schema} {field : String}

/-- Provided filters go on fields of their own kind only. -/
lemma Filter.Provided.kind?_eq {f : Filter} (hf : f.Provided) (h : schema.Takes field f) :
    schema.kind? field = some f.target := by
  obtain ⟨kind,hk,accepted⟩ := h.accepted
  have ha : f.accepts kind = (kind == f.target) := by cases hf <;> rfl
  rw [ha,beq_iff_eq] at accepted
  rw [hk,accepted]

lemma TextFilter.wellKinded_clauses (f : TextFilter) (h : schema.kind? field = some .string) :
    ∀ p ∈ f.clauses field, p.WellKinded schema := by
  have hnegate : ∀ negated p, Predicate.WellKinded schema p →
      (TextFilter.negateIf negated p).WellKinded schema := by
    intro negated p hp
    cases negated <;> simpa [negateIf] using hp
  intro p hp
  simp only [clauses,List.mem_append,Option.mem_toList,Option.map_eq_some_iff,List.mem_filterMap,
    compareClause?,textClause?] at hp
  obtain ((((⟨s,-,rfl⟩ | ⟨s,-,rfl⟩) | ⟨⟨operand,op,negated⟩,-,s,-,rfl⟩) | ⟨e,-,rfl⟩) | ⟨e,-,rfl⟩) |
    ⟨yes,-,rfl⟩ := hp
  · exact (Predicate.wellKinded_compare _ _ _).2 h
  · exact (Predicate.wellKinded_compare _ _ _).2 h
  · exact hnegate _ _ (by simpa using h)
  · simpa using h
  · simpa using h
  · exact hnegate _ _ (by simpa using h)

lemma ComparableFilter.wellKinded_clauses {t : OperandType} (f : ComparableFilter t)
    (h : schema.kind? field = some t.kind) : ∀ p ∈ f.clauses field, p.WellKinded schema := by
  intro p hp
  simp only [clauses,List.mem_filterMap,clause?,Option.map_eq_some_iff,
    Option.bind_eq_some_iff] at hp
  obtain ⟨⟨operand,op⟩,-,v,⟨x,-,hv⟩,rfl⟩ := hp
  rw [Predicate.wellKinded_compare,OperandType.kind_of_scalar? hv,h]

lemma BooleanFilter.wellKinded_clauses (f : BooleanFilter) (h : schema.kind? field = some .bool) :
    ∀ p ∈ f.clauses field, p.WellKinded schema := by
  intro p hp
  simp only [clauses,List.mem_append,Option.mem_toList,Option.map_eq_some_iff] at hp
  obtain ⟨b,-,rfl⟩ | ⟨b,-,rfl⟩ := hp
  · exact (Predicate.wellKinded_compare _ _ _).2 h
  · exact (Predicate.wellKinded_compare _ _ _).2 h

lemma EnumFilter.wellKinded_clauses (f : EnumFilter) (h : schema.kind? field = some .enum) :
    ∀ p ∈ f.clauses field, p.WellKinded schema := by
  have hd : ∀ op d, (discriminant field op d).WellKinded schema :=
    fun _ _ => (Predicate.wellKinded_compare _ _ _).2 h
  have hds : ∀ op (ds : List UInt32),
      ∀ q ∈ ds.map (discriminant field op), q.WellKinded schema := by
    intro op ds q hq
    obtain ⟨d,-,rfl⟩ := List.mem_map.1 hq
    exact hd op d
  intro p hp
  simp only [clauses,List.mem_append,Option.mem_toList,Option.map_eq_some_iff] at hp
  obtain ((⟨d,-,rfl⟩ | ⟨d,-,rfl⟩) | hany) | hall := hp
  · exact hd _ d
  · exact hd _ d
  · exact Predicate.wellKinded_of_any? hany (hds _ _)
  · exact Predicate.wellKinded_of_all? hall (hds _ _)

lemma CollectionFilter.wellKinded_clauses {t : OperandType} (f : CollectionFilter t)
    (h : schema.kind? field = some .list)
    (he : ∀ element, schema.element? field = some element → t.kind = element) :
    ∀ p ∈ f.clauses field, p.WellKinded schema := by
  intro p hp
  obtain ⟨⟨set,mode,negated⟩,-,rfl⟩ := List.mem_map.1 hp
  have htest : (Predicate.contains field mode (set.filterMap t.scalar?)).WellKinded schema := by
    rw [Predicate.wellKinded_contains]
    refine ⟨h,?_⟩
    intro element hel v hv
    obtain ⟨x,-,hx⟩ := List.mem_filterMap.1 hv
    rw [OperandType.kind_of_scalar? hx,he element hel]
  cases negated <;> simpa [clause] using htest

/-- On a field that takes it, a provided filter asks only for tests of the right kind. -/
theorem Filter.Provided.wellKinded {f : Filter} (hf : f.Provided) (h : schema.Takes field f)
    {p : Predicate} (hp : f.predicate? field = some p) : p.WellKinded schema := by
  have hk := hf.kind?_eq h
  cases hf with
  | text f | comparable f | boolean f | enum f =>
    exact Predicate.wellKinded_of_all? hp (f.wellKinded_clauses hk)
  | @collection t f =>
    have he : ∀ element, schema.element? field = some element → t.kind = element :=
      fun element hel => (h.elements element t.kind hel rfl).symm
    exact Predicate.wellKinded_of_all? hp (f.wellKinded_clauses hk he)

end

/-- A missing value counts as one of every kind. -/
def Value.Has (v : Value) (kind : Kind) : Prop := v.kind? = none ∨ v.kind? = some kind

section
variable {ρ : Type} [Record ρ] (schema : Schema) (r : ρ)

/-- A record agrees with a schema if its declared fields hold values of the declared kinds, and its
lists elements of the declared kinds where they are declared. -/
def Schema.Describes : Prop :=
  ∀ field kind, schema.kind? field = some kind → (Record.value r field).Has kind ∧
    ∀ items element, Record.value r field = .list items → schema.element? field = some element →
      ∀ item ∈ items, item.Has element

/-- All that a test compares on a record is of the kind it compares with. What a schema leaves open
about the elements of a list is left open here. -/
def Predicate.Meets : Predicate → Prop
  | compare field _ operand => (Record.value r field).Has operand.kind
  | text field _ _ | pattern field _ | nullOrEmpty field => (Record.value r field).Has .string
  | contains field _ set =>
    (Record.value r field).Has .list ∧ ∀ items element, Record.value r field = .list items →
      schema.element? field = some element → ∀ item ∈ items, ∀ v ∈ set, item.Has v.kind
  | and _ | or _ | not _ => False

variable {schema r}

lemma Predicate.Fits.meets {leaf : Predicate} (h : leaf.Fits schema) (hr : schema.Describes r) :
    leaf.Meets schema r := by
  cases leaf with
  | compare field op v => exact (hr field _ h).1
  | text field op needle => exact (hr field _ h).1
  | pattern field p => exact (hr field _ h).1
  | nullOrEmpty field => exact (hr field _ h).1
  | contains field mode set =>
    obtain ⟨hlist,hset⟩ := h
    obtain ⟨hvalue,hitems⟩ := hr field _ hlist
    refine ⟨hvalue,?_⟩
    intro items element hv he item hi v hvset
    rw [hset element he v hvset]
    exact hitems items element hv he item hi
  | and ps => exact h
  | or ps => exact h
  | not p => exact h

end
end RecordSearch

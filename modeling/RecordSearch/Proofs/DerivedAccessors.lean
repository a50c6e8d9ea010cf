import RecordSearch.Proofs.ListedFields

/-! Derived accessors. All their lists are of the same fields in the order of declaration, those
with a kind that are not skipped. So with distinct names the answers to questions about a name never
disagree: a name has a kind if it is listed, elements if its kind is that of lists, and a value
other than a missing one only if it is listed. -/
namespace RecordSearch

/-- The fields that are searched, row by row: those whose attributes give a kind and do not skip
them, under the name that the attribute gives or else their own. -/
structure Searches (fields : List FieldDeclaration) (rows : List SearchedField) : Prop where
  accepted : ∀ f ∈ fields, SearchAttribute.ofField f = .ok f.searchAttribute
  fields : rows.map SearchedField.field =
    fields.filter fun f => !f.searchAttribute.skip && f.searchAttribute.kind?.isSome
  kind : ∀ r ∈ rows, r.field.searchAttribute.kind? = some r.kind
  name : ∀ r ∈ rows, r.name = r.field.searchAttribute.rename?.getD r.field.name

/-- How the value of a field is to be read. -/
structure SearchedField.ReadBy (r : SearchedField) (v : ValueArm) : Prop where
  name : v.name = r.name
  field : v.field = r.field.name
  enumValue : v.conversion = .enumValue ↔ r.kind = .enum
  listValue : v.conversion = .listValue ↔ r.kind = .list
  value : v.conversion = .value ↔ r.kind ≠ .enum ∧ r.kind ≠ .list

namespace Accessors

/-- The kinds that are answered, given those of the elements of types. -/
def schema (a : Accessors) (element : String → Kind) : Schema where
  kind? field := a.kinds.lookup field
  element? field := (a.elements.lookup field).map element

/-- The value that is answered, given how fields are read. -/
def value (a : Accessors) (read : Conversion → String → Value) (field : String) : Value :=
  (a.values.find? fun v => v.name == field).elim .missing fun v => read v.conversion v.field

/-- The lists of accessors are of the same fields, one row each. -/
structure Lists (a : Accessors) (rows : List SearchedField) : Prop where
  constants : a.constants = rows.map fun r => (constantName r.name,r.name)
  kinds : a.kinds = rows.map fun r => (r.name,r.kind)
  values : List.Forall₂ SearchedField.ReadBy rows a.values
  elements : a.elements =
    (rows.filter fun r => r.kind = .list).map fun r => (r.name,r.field.type.text)

end Accessors

namespace FieldDeclaration
variable {f : FieldDeclaration}

lemma searched?_eq_some_iff {r : SearchedField} :
    f.searched? = some r ↔ f.searchAttribute.skip = false ∧ r.field = f ∧
      f.searchAttribute.kind? = some r.kind ∧
      r.name = f.searchAttribute.rename?.getD f.name := by
  obtain ⟨field,name,kind⟩ := r
  rw [searched?,searchedAs?]
  cases f.searchAttribute.skip with
  | true => simp
  | false =>
    simp only [Bool.false_eq_true,if_false,Option.map_eq_some_iff,SearchedField.mk.injEq,true_and]
    constructor
    · rintro ⟨k,hk,rfl,rfl,rfl⟩; exact ⟨rfl,hk,rfl⟩
    · rintro ⟨rfl,hk,rfl⟩; exact ⟨kind,hk,rfl,rfl,rfl⟩

lemma isSome_searched? (f : FieldDeclaration) : f.searched?.isSome =
    (!f.searchAttribute.skip && f.searchAttribute.kind?.isSome) := by
  rw [searched?,searchedAs?]
  cases f.searchAttribute.skip <;> simp

end FieldDeclaration

/-- What accepted fields are listed as. -/
lemma searches_filterMap {fields : List FieldDeclaration}
    (accepted : ∀ f ∈ fields, ∃ o, f.searchRow? = .ok o) :
    Searches fields (fields.filterMap FieldDeclaration.searched?) where
  accepted f hf := by
    obtain ⟨o,ho⟩ := accepted f hf
    obtain ⟨a,ha,-⟩ := map_eq_ok_iff.1 ho
    rw [ha,FieldDeclaration.eq_searchAttribute ha]
  fields := by
    have own (f : FieldDeclaration) (r : SearchedField) (h : f.searched? = some r) :
        r.field = f := (FieldDeclaration.searched?_eq_some_iff.1 h).2.1
    rw [map_filterMap_eq_filter own]
    simp only [FieldDeclaration.isSome_searched?]
  kind r hr := by
    obtain ⟨f,-,hf⟩ := List.mem_filterMap.1 hr
    obtain ⟨-,rfl,hkind,-⟩ := FieldDeclaration.searched?_eq_some_iff.1 hf
    exact hkind
  name r hr := by
    obtain ⟨f,-,hf⟩ := List.mem_filterMap.1 hr
    obtain ⟨-,rfl,-,hname⟩ := FieldDeclaration.searched?_eq_some_iff.1 hf
    exact hname

namespace Conversion
variable {k : Kind}

lemma ofKind_eq_enumValue_iff : ofKind k = .enumValue ↔ k = .enum := by cases k <;> decide
lemma ofKind_eq_listValue_iff : ofKind k = .listValue ↔ k = .list := by cases k <;> decide

lemma ofKind_eq_value_iff : ofKind k = .value ↔ k ≠ .enum ∧ k ≠ .list := by
  cases k <;> decide

end Conversion

namespace Accessors

lemma lists_ofSearched (rows : List SearchedField) : (ofSearched rows).Lists rows where
  constants := rfl
  kinds := rfl
  elements := rfl
  values := by
    refine List.forall₂_map_right_iff.2 (List.forall₂_same.2 fun r _ => ?_)
    exact ⟨rfl,rfl,Conversion.ofKind_eq_enumValue_iff,Conversion.ofKind_eq_listValue_iff,
      Conversion.ofKind_eq_value_iff⟩

namespace Lists
variable {a : Accessors} {rows : List SearchedField} {n : String}

lemma constantNames (h : a.Lists rows) :
    a.constants.map Prod.snd = rows.map SearchedField.name := by
  rw [h.constants,List.map_map]
  rfl

lemma valueNames (h : a.Lists rows) : a.values.map ValueArm.name = rows.map SearchedField.name :=
  map_eq_map_of_forall₂ (fun _ _ hread => hread.name) h.values

lemma kind?_eq (h : a.Lists rows) (element : String → Kind) :
    (a.schema element).kind? n = (rows.find? fun r => r.name == n).map SearchedField.kind :=
  calc (a.schema element).kind? n = a.kinds.lookup n := rfl
    _ = (rows.find? fun r => r.name == n).map SearchedField.kind := by rw [h.kinds,lookup_map]

/-- The names with a kind are those of the constants. -/
lemma has_iff (h : a.Lists rows) (element : String → Kind) :
    (a.schema element).has n = true ↔ n ∈ a.constants.map Prod.snd := by
  rw [Schema.has,h.kind?_eq,Option.isSome_map,isSome_find?_iff,h.constantNames]

/-- Of a name that is listed once, there are elements if it is that of a list. -/
lemma isSome_element?_iff (h : a.Lists rows) (distinct : (a.constants.map Prod.snd).Nodup)
    (element : String → Kind) : ((a.schema element).element? n).isSome = true ↔
      (a.schema element).kind? n = some .list := by
  rw [h.constantNames] at distinct
  have helement : (a.schema element).element? n = (a.elements.lookup n).map element := rfl
  rw [h.kind?_eq,helement,Option.isSome_map,h.elements,lookup_map,Option.isSome_map,
    isSome_find?_iff]
  simp only [List.mem_map,List.mem_filter,decide_eq_true_eq,Option.map_eq_some_iff,
    find?_eq_some_iff distinct]
  constructor
  · rintro ⟨r,⟨hr,hkind⟩,hname⟩; exact ⟨r,⟨hr,hname⟩,hkind⟩
  · rintro ⟨r,⟨hr,hname⟩,hkind⟩; exact ⟨r,⟨hr,hkind⟩,hname⟩

/-- A name that is listed once is read the way that is listed under it. -/
lemma value_of_mem (h : a.Lists rows) (distinct : (a.constants.map Prod.snd).Nodup)
    (read : Conversion → String → Value) {v : ValueArm} (hv : v ∈ a.values) :
    a.value read v.name = read v.conversion v.field := by
  rw [h.constantNames,← h.valueNames] at distinct
  rw [value,(find?_eq_some_iff distinct).2 ⟨hv,rfl⟩]
  rfl

lemma value_of_not_mem (h : a.Lists rows) (read : Conversion → String → Value)
    (hn : n ∉ a.constants.map Prod.snd) : a.value read n = .missing := by
  rw [h.constantNames,← h.valueNames] at hn
  rw [value,find?_eq_none_iff.2 hn]
  rfl

end Lists

/-- Whatever accessors are derived from a declaration, their lists are of the fields that are
searched, in the order of declaration. So a name has a kind if it is that of a constant, and a value
only then; and as far as names are distinct it has elements if its kind is that of lists, and the
value that its field is read as. -/
theorem derive_coherent {d : Declaration} {a : Accessors} (h : derive d = .ok a)
    (element : String → Kind) (read : Conversion → String → Value) :
    ∃ fields rows, d = .named fields ∧ Searches fields rows ∧ a.Lists rows ∧
      (∀ n, (a.schema element).has n = true ↔ n ∈ a.constants.map Prod.snd) ∧
      (∀ n, n ∉ a.constants.map Prod.snd → a.value read n = .missing) ∧
      ((a.constants.map Prod.snd).Nodup →
        (∀ n, ((a.schema element).element? n).isSome = true ↔
          (a.schema element).kind? n = some .list) ∧
        ∀ v ∈ a.values, a.value read v.name = read v.conversion v.field) := by
  obtain ⟨fields,hfields,hderive⟩ := bind_eq_ok_iff.1 h
  cases d with
  | unnamed => cases hfields
  | notStructure => cases hfields
  | named fields =>
    cases hfields
    rw [ofFields_eq,map_eq_ok_iff] at hderive
    obtain ⟨rows,hlisted,rfl⟩ := hderive
    obtain ⟨accepted,-,rfl⟩ := (listed_eq_ok_iff FieldDeclaration.eq_searched?).1 hlisted
    have hlists := lists_ofSearched (fields.filterMap FieldDeclaration.searched?)
    refine ⟨fields,_,rfl,searches_filterMap accepted,hlists,fun n => hlists.has_iff element,
      fun n => hlists.value_of_not_mem read,fun distinct => ⟨?_,?_⟩⟩
    · exact fun n => hlists.isSome_element?_iff distinct element
    · exact fun v => hlists.value_of_mem distinct read

/-- Of two kinds the later one counts, and a field with a kind may be skipped. -/
theorem derive_coherent_sample :
    let d : Declaration := .named
      [⟨"name",.other "&str",[⟨some "search",some [.word (some "Number"),
          .assign (some "ty") (some "string")]⟩]⟩,
        ⟨"notes",.other "&str",[]⟩,
        ⟨"tags",.path "Vec<Tag>" "Vec" none,[⟨some "search",some
          [.assign (some "rename") (some "labels"),.word (some "List")]⟩]⟩,
        ⟨"id",.other "[u8; 4]",[⟨some "search",some [.word (some "skip"),.word (some "List")]⟩]⟩,
        ⟨"status",.path "Status" "Status" none,[⟨some "search",some [.word (some "Enum")]⟩]⟩]
    let a : Accessors :=
      { constants := [("NAME","name"),("LABELS","labels"),("STATUS","status")]
        values := [⟨"name",.value,"name"⟩,⟨"labels",.listValue,"tags"⟩,
          ⟨"status",.enumValue,"status"⟩]
        kinds := [("name",.string),("labels",.list),("status",.enum)]
        elements := [("labels","Vec<Tag>")] }
    derive d = .ok a ∧ (a.constants.map Prod.snd).Nodup ∧
      ∀ (element : String → Kind) (read : Conversion → String → Value),
        (a.schema element).has "tags" = false ∧ a.value read "id" = .missing ∧
        ((a.schema element).element? "labels").isSome = true ∧
        a.value read "labels" = read .listValue "tags" := by
  intro d a
  have hderive : derive d = .ok a := by decide +kernel
  have distinct : (a.constants.map Prod.snd).Nodup := by decide
  refine ⟨hderive,distinct,fun element read => ?_⟩
  obtain ⟨fields,rows,-,-,-,hhas,hmissing,hdistinct⟩ := derive_coherent hderive element read
  obtain ⟨helement,hvalue⟩ := hdistinct distinct
  refine ⟨?_,hmissing "id" (by decide),(helement "labels").2 rfl,?_⟩
  · exact Bool.eq_false_iff.2 fun h => absurd ((hhas "tags").1 h) (by decide)
  · exact hvalue ⟨"labels",.listValue,"tags"⟩ (by decide)

end Accessors
end RecordSearch

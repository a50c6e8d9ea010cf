import RecordSearch.Proofs.AttributeItems

/-! Attributes in several parts. A derivation reads the first attribute of its name and no further
one. So items that are parted among several attributes do as well as in one exactly if the later
parts are fit and say nothing that the first one does not say, or if the first is refused anyway. -/
namespace RecordSearch

/-- The attributes of a name have these items. -/
def FieldDeclaration.Has (f : FieldDeclaration) (called : String)
    (parts : List (List AttributeItem)) : Prop :=
  f.attributes.filter (fun a => a.name? == some called) =
    parts.map fun items => ⟨some called,some items⟩

/-- One field declared in two ways: first with attributes of a name in several parts, and then with
all of their items in one. -/
structure SplitOf (called : String) (first : List AttributeItem) (rest : List (List AttributeItem))
    (f g : FieldDeclaration) : Prop where
  name : f.name = g.name
  type : f.type = g.type
  split : f.Has called (first :: rest)
  whole : g.Has called [first ++ rest.flatten]

section
variable {called : String} {first : List AttributeItem} {rest : List (List AttributeItem)}
variable {f g : FieldDeclaration}

lemma FieldDeclaration.Has.items (h : f.Has called (first :: rest)) :
    f.items called = .ok first := by
  rw [FieldDeclaration.items,← List.head?_filter,h]
  rfl

namespace SearchAttribute

lemma ofField_eq (h : f.Has "search" (first :: rest)) :
    ofField f = (ofItems first).mapError .searchItem := by
  rw [ofField,h.items]
  rfl

/-- What the later parts have to be for nothing to be lost. -/
lemma ofField_eq_iff (h : SplitOf "search" first rest f g) : ofField f = ofField g ↔
    ∀ a, ofItems first = .ok a → ∃ b, ofItems rest.flatten = .ok b ∧ a.Covers b := by
  have injective : Function.Injective DeriveError.searchItem := fun _ _ => DeriveError.searchItem.inj
  rw [ofField_eq h.split,ofField_eq h.whole,mapError_inj injective,ofItems,ofItems,
    foldlM_append_eq_left_iff]
  simp only [foldlM_add_eq_self_iff]

end SearchAttribute

namespace SpecAttribute

lemma ofField_eq (h : f.Has "spec" (first :: rest)) :
    ofField f = (ofItems first).mapError .specItem := by
  rw [ofField,h.items]
  rfl

/-- What the later parts have to be for nothing to be lost. -/
lemma ofField_eq_iff (h : SplitOf "spec" first rest f g) : ofField f = ofField g ↔
    ∀ a, ofItems first = .ok a → ∃ b, ofItems rest.flatten = .ok b ∧ a.Covers b := by
  have injective : Function.Injective DeriveError.specItem := fun _ _ => DeriveError.specItem.inj
  rw [ofField_eq h.split,ofField_eq h.whole,mapError_inj injective,ofItems,ofItems,
    foldlM_append_eq_left_iff]
  simp only [foldlM_add_eq_self_iff]

end SpecAttribute

/-- A derivation does not see more of a field than its name, its type and what is read of its
attributes. -/
lemma Accessors.ofFields_congr (hname : f.name = g.name) (htype : f.type = g.type)
    (h : SearchAttribute.ofField f = SearchAttribute.ofField g)
    (before after : List FieldDeclaration) :
    ofFields (before ++ f :: after) = ofFields (before ++ g :: after) := by
  induction before with
  | nil =>
    rw [List.nil_append,List.nil_append,ofFields,ofFields,h,hname]
    simp only [add,hname,htype]
  | cons e before ih => rw [List.cons_append,List.cons_append,ofFields,ofFields,ih]

lemma Descriptors.ofFields_congr (hname : f.name = g.name) (htype : f.type = g.type)
    (h : SpecAttribute.ofField f = SpecAttribute.ofField g)
    (before after : List FieldDeclaration) :
    ofFields (before ++ f :: after) = ofFields (before ++ g :: after) := by
  induction before with
  | nil =>
    rw [List.nil_append,List.nil_append,ofFields,ofFields,h,hname,htype]
    simp only [add,hname,htype]
  | cons e before ih => rw [List.cons_append,List.cons_append,ofFields,ofFields,ih]

/-- Of an attribute in several parts only the first part is read. The field is the same as with one
attribute exactly if the later parts are fit and the first says all that they say, or if the first
is refused already; nothing else is then derived from a declaration with that field either. -/
theorem read_split_iff :
    (SplitOf "search" first rest f g →
      SearchAttribute.ofField f = (SearchAttribute.ofItems first).mapError .searchItem ∧
      (SearchAttribute.ofField f = SearchAttribute.ofField g ↔
        ∀ a, SearchAttribute.ofItems first = .ok a →
          ∃ b, SearchAttribute.ofItems rest.flatten = .ok b ∧ a.Covers b) ∧
      (SearchAttribute.ofField f = SearchAttribute.ofField g → ∀ before after,
        Accessors.derive (.named (before ++ f :: after)) =
          Accessors.derive (.named (before ++ g :: after)))) ∧
    (SplitOf "spec" first rest f g →
      SpecAttribute.ofField f = (SpecAttribute.ofItems first).mapError .specItem ∧
      (SpecAttribute.ofField f = SpecAttribute.ofField g ↔
        ∀ a, SpecAttribute.ofItems first = .ok a →
          ∃ b, SpecAttribute.ofItems rest.flatten = .ok b ∧ a.Covers b) ∧
      (SpecAttribute.ofField f = SpecAttribute.ofField g → ∀ before after,
        Descriptors.derive (.named (before ++ f :: after)) =
          Descriptors.derive (.named (before ++ g :: after)))) := by
  constructor
  · intro h
    exact ⟨SearchAttribute.ofField_eq h.split,SearchAttribute.ofField_eq_iff h,
      Accessors.ofFields_congr h.name h.type⟩
  · intro h
    exact ⟨SpecAttribute.ofField_eq h.split,SpecAttribute.ofField_eq_iff h,
      Descriptors.ofFields_congr h.name h.type⟩

end

/-- A kind may be given twice, but a name that is given second is lost. -/
theorem read_split_iff_sample :
    let kind : AttributeItem := .word (some "String")
    let again : AttributeItem := .assign (some "ty") (some "string")
    let rename : AttributeItem := .assign (some "rename") (some "jobTitle")
    let field (attributes : List Attribute) : FieldDeclaration :=
      ⟨"title",.other "&str",attributes⟩
    let f := field [⟨some "search",some [kind]⟩,⟨some "doc",none⟩,⟨some "search",some [again]⟩]
    let g := field [⟨some "search",some [kind,again]⟩]
    let f' := field [⟨some "spec",some []⟩,⟨some "spec",some [rename]⟩]
    let g' := field [⟨some "spec",some [rename]⟩]
    SplitOf "search" [kind] [[again]] f g ∧
      Accessors.derive (.named [f]) = Accessors.derive (.named [g]) ∧
      SplitOf "spec" [] [[rename]] f' g' ∧ SpecAttribute.ofField f' ≠ SpecAttribute.ofField g' := by
  intro kind again rename field f g f' g'
  have hsearch : SplitOf "search" [kind] [[again]] f g := ⟨rfl,rfl,rfl,rfl⟩
  have hspec : SplitOf "spec" [] [[rename]] f' g' := ⟨rfl,rfl,rfl,rfl⟩
  obtain ⟨-,hsame,hderive⟩ := read_split_iff.1 hsearch
  obtain ⟨-,hsame',-⟩ := read_split_iff.2 hspec
  refine ⟨hsearch,hderive (hsame.2 ?_) [] [],hspec,?_⟩
  · intro a ha
    cases ha
    exact ⟨_,rfl,fun _ h => h,id,fun _ h => h⟩
  · intro h
    obtain ⟨b,hb,hcovers⟩ := hsame'.1 h {} rfl
    cases hb
    cases hcovers.rename "jobTitle" rfl

/-- A field that is to be skipped and taken is refused, but not if two attributes say so. -/
theorem not_derive_eq_of_split :
    ¬ ∀ (f g : FieldDeclaration) (first : List AttributeItem) (rest : List (List AttributeItem)),
      SplitOf "spec" first rest f g →
        Descriptors.derive (.named [f]) = Descriptors.derive (.named [g]) := by
  intro h
  let skip : AttributeItem := .word (some "skip")
  let take : AttributeItem := .word (some "take")
  let f : FieldDeclaration :=
    ⟨"a",.path "u32" "u32" none,[⟨some "spec",some [skip]⟩,⟨some "spec",some [take]⟩]⟩
  let g : FieldDeclaration := ⟨"a",.path "u32" "u32" none,[⟨some "spec",some [skip,take]⟩]⟩
  have hg : Descriptors.derive (.named [g]) = .error (.specItem .secondRole) := by decide +kernel
  have hf : Descriptors.derive (.named [f]) =
      .ok ⟨[("A","a")],[⟨"a",.skip⟩],[⟨"a",false,"a",false⟩]⟩ := by decide +kernel
  have hsame := h f g [skip] [[take]] ⟨rfl,rfl,rfl,rfl⟩
  rw [hf,hg] at hsame
  cases hsame

end RecordSearch

import RecordSearch.Proofs.AttributeItems
import RecordSearch.Proofs.ConstantNames
import RecordSearch.Proofs.Lookups

/-! What a derivation goes through. It takes the declared fields one by one, refuses a field, leaves
it out or lists it, and a name that it lists has to have a constant. Both derivations write down
what they have listed in the end and differ only in what they list, so whether they succeed and why
they fail is settled here for both. -/
namespace RecordSearch

lemma checkedConstant_eq_ok_iff {name c : String} : checkedConstant name = .ok c ↔
    Text.isIdentifier (constantName name) = true ∧ c = constantName name := by
  rw [checkedConstant]
  cases Text.isIdentifier (constantName name) <;> simp [eq_comm]

lemma checkedConstant_eq_error_iff {name : String} {e : DeriveError} :
    checkedConstant name = .error e ↔
      Text.isIdentifier (constantName name) = false ∧ e = .badConstant (constantName name) := by
  rw [checkedConstant]
  cases Text.isIdentifier (constantName name) <;> simp [eq_comm]

section
variable {α : Type}

/-- What some fields are listed as, each under a name that has a constant. -/
def listed (row? : FieldDeclaration → Except DeriveError (Option α)) (name : α → String) :
    List FieldDeclaration → Except DeriveError (List α)
  | [] => .ok []
  | f :: fs => do
    match ← row? f with
    | none => listed row? name fs
    | some a =>
      let _ ← checkedConstant (name a)
      return a :: (← listed row? name fs)

variable {row? : FieldDeclaration → Except DeriveError (Option α)} {name : α → String}

/-- Fields are listed if none is refused and all names have a constant. Nothing is then listed but
what the fields give, in their order. -/
lemma listed_eq_ok_iff {given? : FieldDeclaration → Option α}
    (hrow : ∀ f o, row? f = .ok o → o = given? f) {fs : List FieldDeclaration} {as : List α} :
    listed row? name fs = .ok as ↔ (∀ f ∈ fs, ∃ o, row? f = .ok o) ∧
      (∀ a ∈ fs.filterMap given?, Text.isIdentifier (constantName (name a)) = true) ∧
      as = fs.filterMap given? := by
  induction fs generalizing as with
  | nil =>
    rw [listed,List.filterMap_nil]
    constructor
    · intro h; cases h; exact ⟨List.forall_mem_nil _,List.forall_mem_nil _,rfl⟩
    · rintro ⟨-,-,rfl⟩; rfl
  | cons f fs ih =>
    rw [listed,bind_eq_ok_iff,List.forall_mem_cons]
    constructor
    · rintro ⟨o,hf,h⟩
      rw [List.filterMap_cons,← hrow f o hf]
      cases o with
      | none =>
        obtain ⟨hfs,hnames,rfl⟩ := ih.1 h
        exact ⟨⟨⟨_,hf⟩,hfs⟩,hnames,rfl⟩
      | some a =>
        simp only [bind_eq_ok_iff,checkedConstant_eq_ok_iff] at h
        obtain ⟨c,⟨hname,-⟩,rest,hrest,has⟩ := h
        obtain ⟨hfs,hnames,rfl⟩ := ih.1 hrest
        cases has
        exact ⟨⟨⟨_,hf⟩,hfs⟩,List.forall_mem_cons.2 ⟨hname,hnames⟩,rfl⟩
    · rintro ⟨⟨⟨o,hf⟩,hfs⟩,hnames,rfl⟩
      refine ⟨o,hf,?_⟩
      rw [List.filterMap_cons,← hrow f o hf] at hnames ⊢
      cases o with
      | none => exact ih.2 ⟨hfs,hnames,rfl⟩
      | some a =>
        obtain ⟨hname,hnames⟩ := List.forall_mem_cons.1 hnames
        simp only [bind_eq_ok_iff,checkedConstant_eq_ok_iff]
        exact ⟨_,⟨hname,rfl⟩,_,ih.2 ⟨hfs,hnames,rfl⟩,rfl⟩

/-- Listing fails because of a field that is refused or of a name without a constant. -/
lemma of_listed_eq_error {fs : List FieldDeclaration} {e : DeriveError}
    (h : listed row? name fs = .error e) : ∃ f ∈ fs, row? f = .error e ∨
      ∃ a, row? f = .ok (some a) ∧ Text.isIdentifier (constantName (name a)) = false ∧
        e = .badConstant (constantName (name a)) := by
  induction fs with
  | nil => cases h
  | cons f fs ih =>
    have later (hrest : listed row? name fs = .error e) := (ih hrest).imp
      fun g hg => And.intro (List.mem_cons_of_mem f hg.1) hg.2
    rw [listed,bind_eq_error_iff] at h
    rcases h with hf | ⟨_ | a,hf,h⟩
    · exact ⟨f,List.mem_cons_self,.inl hf⟩
    · exact later h
    · simp only [bind_eq_error_iff,checkedConstant_eq_error_iff] at h
      rcases h with ⟨hbad,he⟩ | ⟨c,-,hrest | ⟨as,-,h⟩⟩
      · exact ⟨f,List.mem_cons_self,.inr ⟨a,hf,hbad,he⟩⟩
      · exact later hrest
      · cases h

end

/-- What is given by fields, each the field that it is given by. -/
lemma map_filterMap_eq_filter {α : Type} {given? : FieldDeclaration → Option α}
    {field : α → FieldDeclaration} (own : ∀ f a, given? f = some a → field a = f)
    (fields : List FieldDeclaration) :
    (fields.filterMap given?).map field = fields.filter fun f => (given? f).isSome := by
  rw [List.map_filterMap,← List.filterMap_eq_filter]
  congr 1
  funext f
  cases hf : given? f with
  | none => simp [Option.guard,hf]
  | some a => simp [Option.guard,hf,own f a hf]

/-- A record field that is searched, under its name and with its kind. -/
structure SearchedField where
  field : FieldDeclaration
  name : String
  kind : Kind

/-- A field that takes part in a specification, under its name and in its role. -/
structure SpecifiedField where
  field : FieldDeclaration
  name : String
  role : Role

namespace FieldDeclaration

/-- What the items of its attribute say of a record field. -/
def searchAttribute (f : FieldDeclaration) : SearchAttribute :=
  .saidBy ((f.items "search").toOption.getD [])

/-- What the items of its attribute say of a field of a specification. -/
def specAttribute (f : FieldDeclaration) : SpecAttribute :=
  .saidBy ((f.items "spec").toOption.getD [])

lemma eq_searchAttribute {f : FieldDeclaration} {a : SearchAttribute}
    (h : SearchAttribute.ofField f = .ok a) : a = f.searchAttribute := by
  simp only [SearchAttribute.ofField,bind_eq_ok_iff,mapError_eq_ok_iff,
    SearchAttribute.ofItems_eq_ok_iff] at h
  obtain ⟨items,hitems,-,rfl⟩ := h
  rw [searchAttribute,hitems]
  rfl

lemma eq_specAttribute {f : FieldDeclaration} {a : SpecAttribute}
    (h : SpecAttribute.ofField f = .ok a) : a = f.specAttribute := by
  simp only [SpecAttribute.ofField,bind_eq_ok_iff,mapError_eq_ok_iff,
    SpecAttribute.ofItems_eq_ok_iff] at h
  obtain ⟨items,hitems,-,-,rfl⟩ := h
  rw [specAttribute,hitems]
  rfl

/-- A record field with a kind is searched, unless it is skipped. -/
def searchedAs? (f : FieldDeclaration) (a : SearchAttribute) : Option SearchedField :=
  if a.skip then none else a.kind?.map fun k => ⟨f,a.rename?.getD f.name,k⟩

/-- A field takes part in a specification, unless it is to be ignored. -/
def specifiedAs? (f : FieldDeclaration) (a : SpecAttribute) : Option SpecifiedField :=
  (roleOf? a.role? f.type).map fun role => ⟨f,a.rename?.getD f.name,role⟩

def searched? (f : FieldDeclaration) : Option SearchedField := f.searchedAs? f.searchAttribute
def specified? (f : FieldDeclaration) : Option SpecifiedField := f.specifiedAs? f.specAttribute

/-- What the derivation of accessors lists a field as. -/
def searchRow? (f : FieldDeclaration) : Except DeriveError (Option SearchedField) :=
  (SearchAttribute.ofField f).map f.searchedAs?

/-- What the derivation of descriptors lists a field as. -/
def specRow? (f : FieldDeclaration) : Except DeriveError (Option SpecifiedField) :=
  (SpecAttribute.ofField f).map f.specifiedAs?

lemma eq_searched? (f : FieldDeclaration) (o : Option SearchedField)
    (h : f.searchRow? = .ok o) : o = f.searched? := by
  obtain ⟨a,ha,rfl⟩ := map_eq_ok_iff.1 h
  rw [eq_searchAttribute ha,searched?]

lemma eq_specified? (f : FieldDeclaration) (o : Option SpecifiedField)
    (h : f.specRow? = .ok o) : o = f.specified? := by
  obtain ⟨a,ha,rfl⟩ := map_eq_ok_iff.1 h
  rw [eq_specAttribute ha,specified?]

end FieldDeclaration

namespace Accessors

def ofSearched (rows : List SearchedField) : Accessors where
  constants := rows.map fun r => (constantName r.name,r.name)
  values := rows.map fun r => ⟨r.name,.ofKind r.kind,r.field.name⟩
  kinds := rows.map fun r => (r.name,r.kind)
  elements := (rows.filter (·.kind = .list)).map fun r => (r.name,r.field.type.text)

lemma ofSearched_cons (r : SearchedField) (rows : List SearchedField) :
    ofSearched (r :: rows) = (ofSearched rows).add r.field r.name (constantName r.name) r.kind := by
  rw [ofSearched,ofSearched,add,List.filter_cons,List.map_cons,List.map_cons,List.map_cons]
  by_cases hk : r.kind = .list <;> simp [hk]

/-- Deriving accessors is listing the fields that are searched. -/
lemma ofFields_eq (fs : List FieldDeclaration) : ofFields fs =
    (listed FieldDeclaration.searchRow? SearchedField.name fs).map ofSearched := by
  induction fs with
  | nil => rfl
  | cons f fs ih =>
    rw [ofFields,listed,ih,FieldDeclaration.searchRow?]
    generalize listed _ SearchedField.name fs = rest
    cases SearchAttribute.ofField f with
    | error e => rfl
    | ok a =>
      simp only [bind,Except.bind,Except.map,FieldDeclaration.searchedAs?]
      cases a.kind? with
      | none => cases a.skip <;> rfl
      | some k =>
        cases a.skip with
        | true => rfl
        | false =>
          simp only [Bool.false_eq_true,if_false,Option.map_some]
          cases hc : checkedConstant (a.rename?.getD f.name) with
          | error e => rfl
          | ok c =>
            obtain ⟨-,rfl⟩ := checkedConstant_eq_ok_iff.1 hc
            cases rest with
            | error e => rfl
            | ok rows =>
              exact congrArg Except.ok (ofSearched_cons ⟨f,a.rename?.getD f.name,k⟩ rows).symm

end Accessors

namespace Descriptors

def ofSpecified (rows : List SpecifiedField) : Descriptors where
  constants := rows.map fun r => (constantName r.name,r.name)
  fields := rows.map fun r => ⟨r.name,r.role⟩
  values := rows.map fun r => ⟨r.name,r.role == .filter,r.field.name,
    r.role == .filter && r.field.type.inner?.isSome⟩

/-- Deriving descriptors is listing the fields that take part. -/
lemma ofFields_eq (fs : List FieldDeclaration) : ofFields fs =
    (listed FieldDeclaration.specRow? SpecifiedField.name fs).map ofSpecified := by
  induction fs with
  | nil => rfl
  | cons f fs ih =>
    rw [ofFields,listed,ih,FieldDeclaration.specRow?]
    generalize listed _ SpecifiedField.name fs = rest
    cases SpecAttribute.ofField f with
    | error e => rfl
    | ok a =>
      simp only [bind,Except.bind,Except.map,FieldDeclaration.specifiedAs?]
      cases roleOf? a.role? f.type with
      | none => rfl
      | some role =>
        simp only [Option.map_some]
        cases hc : checkedConstant (a.rename?.getD f.name) with
        | error e => rfl
        | ok c =>
          obtain ⟨-,rfl⟩ := checkedConstant_eq_ok_iff.1 hc
          cases rest with
          | error e => rfl
          | ok rows => rfl

end Descriptors
end RecordSearch

import RecordSearch.Proofs.ListedFields

/-! Derivations from declarations that rename nothing. If the attributes are accepted, all that can
go wrong is the name of a constant, and it goes wrong exactly for a listed field that is called by a
raw word: the sign of a raw word becomes part of the constant, which cannot be written then. -/
namespace RecordSearch

/-- Something that comes to an end unless a field is called by a raw word, and fails because of
such a field otherwise. -/
structure FailsOnRaw {α : Type} (x : Except DeriveError α) (fields : List FieldDeclaration) :
    Prop where
  succeeds : (∃ a, x = .ok a) ↔ ∀ f ∈ fields, Lexer.isRaw f.name = false
  fails : ∀ e, x = .error e →
    ∃ f ∈ fields, Lexer.isRaw f.name = true ∧ e = .badConstant (constantName f.name)

lemma FailsOnRaw.map {α β : Type} {x : Except DeriveError α} {fields : List FieldDeclaration}
    (h : FailsOnRaw x fields) (g : α → β) : FailsOnRaw (x.map g) fields where
  succeeds := by
    rw [← h.succeeds]
    simp
  fails e he := h.fails e (map_eq_error_iff.1 he)

/-- Listing fields that are not refused, each under the word that it is called by. -/
lemma failsOnRaw_listed {α : Type} {row? : FieldDeclaration → Except DeriveError (Option α)}
    {name : α → String} {given? : FieldDeclaration → Option α}
    (hrow : ∀ f o, row? f = .ok o → o = given? f) {fields : List FieldDeclaration}
    (words : ∀ f ∈ fields, Lexer.IsWord f.name) (accepted : ∀ f ∈ fields, ∃ o, row? f = .ok o)
    (own : ∀ f ∈ fields, ∀ a, given? f = some a → name a = f.name) :
    FailsOnRaw (listed row? name fields) (fields.filter fun f => (given? f).isSome) where
  succeeds := by
    simp only [listed_eq_ok_iff hrow]
    constructor
    · rintro ⟨as,-,hnames,-⟩ f hf
      obtain ⟨hmem,hsome⟩ := List.mem_filter.1 hf
      obtain ⟨a,ha⟩ := Option.isSome_iff_exists.1 hsome
      have hname := hnames a (List.mem_filterMap.2 ⟨f,hmem,ha⟩)
      rw [own f hmem a ha,(words f hmem).isIdentifier_constantName] at hname
      simpa using hname
    · intro hplain
      refine ⟨_,accepted,?_,rfl⟩
      intro a ha
      obtain ⟨f,hmem,hf⟩ := List.mem_filterMap.1 ha
      rw [own f hmem a hf,(words f hmem).isIdentifier_constantName,
        hplain f (List.mem_filter.2 ⟨hmem,by rw [hf]; rfl⟩)]
      rfl
  fails e he := by
    obtain ⟨f,hmem,hf | ⟨a,hf,hbad,rfl⟩⟩ := of_listed_eq_error he
    · obtain ⟨o,ho⟩ := accepted f hmem
      rw [ho] at hf
      cases hf
    · have ha := (hrow f _ hf).symm
      rw [own f hmem a ha] at hbad ⊢
      rw [(words f hmem).isIdentifier_constantName] at hbad
      exact ⟨f,List.mem_filter.2 ⟨hmem,by rw [ha]; rfl⟩,by simpa using hbad,rfl⟩

/-- A word that a field is called by has a constant exactly if it is not raw. So, with attributes
that are accepted and rename nothing, both derivations come to an end exactly if no field that they
list is called by a raw word, and what they fail with otherwise is the constant of such a field. -/
theorem derive_of_words {fields : List FieldDeclaration}
    (words : ∀ f ∈ fields, Lexer.IsWord f.name) :
    (∀ f ∈ fields, Text.isIdentifier (constantName f.name) = !Lexer.isRaw f.name) ∧
    ((∀ f ∈ fields, ∃ a, SearchAttribute.ofField f = .ok a ∧ a.rename? = none) →
      FailsOnRaw (Accessors.derive (.named fields)) (fields.filter fun f => f.searched?.isSome)) ∧
    ((∀ f ∈ fields, ∃ a, SpecAttribute.ofField f = .ok a ∧ a.rename? = none) →
      FailsOnRaw (Descriptors.derive (.named fields))
        (fields.filter fun f => f.specified?.isSome)) := by
  refine ⟨fun f hf => (words f hf).isIdentifier_constantName,?_,?_⟩
  · intro accepted
    have hderive : Accessors.derive (.named fields) =
        (listed FieldDeclaration.searchRow? SearchedField.name fields).map .ofSearched :=
      Accessors.ofFields_eq fields
    rw [hderive]
    refine (failsOnRaw_listed FieldDeclaration.eq_searched? words ?_ ?_).map _
    · intro f hf
      obtain ⟨a,ha,-⟩ := accepted f hf
      exact ⟨_,map_eq_ok_iff.2 ⟨a,ha,rfl⟩⟩
    · intro f hf r hr
      obtain ⟨a,ha,hrename⟩ := accepted f hf
      rw [FieldDeclaration.searched?,← FieldDeclaration.eq_searchAttribute ha,
        FieldDeclaration.searchedAs?,hrename] at hr
      split_ifs at hr
      obtain ⟨k,-,rfl⟩ := Option.map_eq_some_iff.1 hr
      rfl
  · intro accepted
    have hderive : Descriptors.derive (.named fields) =
        (listed FieldDeclaration.specRow? SpecifiedField.name fields).map .ofSpecified :=
      Descriptors.ofFields_eq fields
    rw [hderive]
    refine (failsOnRaw_listed FieldDeclaration.eq_specified? words ?_ ?_).map _
    · intro f hf
      obtain ⟨a,ha,-⟩ := accepted f hf
      exact ⟨_,map_eq_ok_iff.2 ⟨a,ha,rfl⟩⟩
    · intro f hf r hr
      obtain ⟨a,ha,hrename⟩ := accepted f hf
      rw [FieldDeclaration.specified?,← FieldDeclaration.eq_specAttribute ha,
        FieldDeclaration.specifiedAs?,hrename] at hr
      obtain ⟨role,-,rfl⟩ := Option.map_eq_some_iff.1 hr
      rfl

/-- A raw word does no harm where the field is skipped, and where it is listed nothing is derived. -/
theorem derive_of_words_sample :
    let fields : List FieldDeclaration :=
      [⟨"createdAt_2",.other "&str",[⟨some "doc",none⟩,
          ⟨some "search",some [.word (some "bool"),.assign (some "ty") (some "string")]⟩]⟩,
        ⟨"r#type",.other "&str",[⟨some "search",some [.word (some "skip")]⟩]⟩]
    (∀ f ∈ fields, Lexer.IsWord f.name) ∧
    (∀ f ∈ fields, ∃ a, SearchAttribute.ofField f = .ok a ∧ a.rename? = none) ∧
    (∀ f ∈ fields, ∃ a, SpecAttribute.ofField f = .ok a ∧ a.rename? = none) ∧
    (∃ a, Accessors.derive (.named fields) = .ok a) ∧
    ∃ f ∈ fields, Lexer.isRaw f.name = true ∧
      Descriptors.derive (.named fields) = .error (.badConstant (constantName f.name)) := by
  intro fields
  have words : ∀ f ∈ fields, Lexer.IsWord f.name :=
    List.forall_mem_cons.2 ⟨rfl,List.forall_mem_singleton.2 rfl⟩
  have search : ∀ f ∈ fields, ∃ a, SearchAttribute.ofField f = .ok a ∧ a.rename? = none :=
    List.forall_mem_cons.2 ⟨⟨_,rfl,rfl⟩,List.forall_mem_singleton.2 ⟨_,rfl,rfl⟩⟩
  have spec : ∀ f ∈ fields, ∃ a, SpecAttribute.ofField f = .ok a ∧ a.rename? = none :=
    List.forall_mem_cons.2 ⟨⟨_,rfl,rfl⟩,List.forall_mem_singleton.2 ⟨_,rfl,rfl⟩⟩
  obtain ⟨-,hsearch,hspec⟩ := derive_of_words words
  refine ⟨words,search,spec,(hsearch search).succeeds.2 ?_,?_⟩
  · exact List.forall_mem_singleton.2 rfl
  · cases h : Descriptors.derive (.named fields) with
    | ok a =>
      have hmem : fields[1] ∈ fields.filter fun f => f.specified?.isSome :=
        List.mem_filter.2 ⟨List.mem_cons_of_mem _ List.mem_cons_self,rfl⟩
      exact absurd ((hspec spec).succeeds.1 ⟨a,h⟩ _ hmem) (by decide)
    | error e =>
      obtain ⟨f,hf,hraw,rfl⟩ := (hspec spec).fails e h
      exact ⟨f,(List.mem_filter.1 hf).1,hraw,rfl⟩

/-- A field of strings called `r#type` stops both derivations. -/
theorem not_derive_of_raw_word :
    ¬ ∀ fields : List FieldDeclaration, (∀ f ∈ fields, Lexer.IsWord f.name) →
      (∀ f ∈ fields, (∃ a, SearchAttribute.ofField f = .ok a ∧ a.rename? = none) ∧
        ∃ a, SpecAttribute.ofField f = .ok a ∧ a.rename? = none) →
      (∃ a, Accessors.derive (.named fields) = .ok a) ∧
        ∃ a, Descriptors.derive (.named fields) = .ok a := by
  intro h
  let f : FieldDeclaration :=
    ⟨"r#type",.path "String" "String" none,[⟨some "search",some [.word (some "String")]⟩]⟩
  have hword : Lexer.IsWord "r#type" := rfl
  have hderive : Accessors.derive (.named [f]) = .error (.badConstant "R#TYPE") := by
    decide +kernel
  obtain ⟨⟨a,ha⟩,-⟩ := h [f] (List.forall_mem_singleton.2 hword)
    (List.forall_mem_singleton.2 ⟨⟨_,rfl,rfl⟩,_,rfl,rfl⟩)
  rw [hderive] at ha
  cases ha

end RecordSearch

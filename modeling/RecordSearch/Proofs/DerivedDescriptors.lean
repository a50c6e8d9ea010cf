import RecordSearch.Proofs.ListedFields

/-! Derived descriptors. The table, its constants and the settings are of the same fields in the
order of declaration, those that are not to be ignored. A field is in the role that its attribute
gives it, and else it is a filter if that is what its type holds. The first descriptor of a name and
its setting come from the same field, so they are of the same sort. -/
namespace RecordSearch

namespace DeclaredType

/-- A path whose last name is that of a filter. -/
def NamesFilter (t : DeclaredType) : Prop :=
  ∃ text name argument?, t = .path text name argument? ∧ name ∈ filterNames

def OptionOf (t inner : DeclaredType) : Prop := ∃ text, t = .path text "Option" (some inner)

/-- A filter, or one that may be left out. -/
def HoldsFilter (t : DeclaredType) : Prop :=
  t.NamesFilter ∨ ∃ inner, t.OptionOf inner ∧ inner.NamesFilter

lemma isFilter_iff {t : DeclaredType} : t.isFilter = true ↔ t.NamesFilter := by
  rw [isFilter,NamesFilter]
  cases t <;> simp [name?]

lemma inner?_eq_some_iff {t inner : DeclaredType} : t.inner? = some inner ↔ t.OptionOf inner := by
  rw [OptionOf]
  cases t with
  | other text => simp [inner?]
  | path text name argument? => by_cases hname : name = "Option" <;> simp [inner?,hname]

lemma OptionOf.not_namesFilter {t inner : DeclaredType} (h : t.OptionOf inner) :
    ¬ t.NamesFilter := by
  obtain ⟨text,rfl⟩ := h
  rintro ⟨_,_,_,ht,hname⟩
  cases ht
  exact absurd hname (by decide)

/-- Taking one `Option` away does not hide a filter, and shows one that is inside of it. -/
lemma isFilter_getD_inner?_iff {t : DeclaredType} :
    (t.inner?.getD t).isFilter = true ↔ t.HoldsFilter := by
  rw [isFilter_iff,HoldsFilter]
  cases hinner : t.inner? with
  | none =>
    have hnone (inner : DeclaredType) : ¬ t.OptionOf inner := by
      rw [← inner?_eq_some_iff,hinner]
      exact Option.some_ne_none inner ∘ Eq.symm
    exact ⟨Or.inl,fun h => h.resolve_right fun ⟨inner,ht,_⟩ => hnone inner ht⟩
  | some inner =>
    have ht := inner?_eq_some_iff.1 hinner
    constructor
    · exact fun h => .inr ⟨inner,ht,h⟩
    · rintro (h | ⟨inner',ht',h⟩)
      · exact absurd h ht.not_namesFilter
      · rw [← inner?_eq_some_iff,hinner] at ht'
        cases ht'
        exact h

end DeclaredType

/-- The role of a field by what its attribute says and by its type. -/
inductive HasRole : Option RoleMarker → DeclaredType → Role → Prop
  | skip (t : DeclaredType) : HasRole (some .skip) t .skip
  | take (t : DeclaredType) : HasRole (some .take) t .take
  | filter (t : DeclaredType) : HasRole (some .filter) t .filter
  | ofType {t : DeclaredType} (h : t.HoldsFilter) : HasRole none t .filter
  | plain {t : DeclaredType} (h : ¬ t.HoldsFilter) : HasRole none t .plain

lemma roleOf?_eq_some_iff {m? : Option RoleMarker} {t : DeclaredType} {role : Role} :
    roleOf? m? t = some role ↔ HasRole m? t role := by
  constructor
  · intro h
    cases m? with
    | none =>
      rw [roleOf?] at h
      split_ifs at h with ht
      · cases h; exact .ofType (DeclaredType.isFilter_getD_inner?_iff.1 ht)
      · cases h; exact .plain (ht ∘ DeclaredType.isFilter_getD_inner?_iff.2)
    | some m =>
      cases m with
      | filter => cases h; exact .filter t
      | skip => cases h; exact .skip t
      | take => cases h; exact .take t
      | ignore => cases h
  · rintro (_ | _ | _ | ht | ht)
    · rfl
    · rfl
    · rfl
    · exact if_pos (DeclaredType.isFilter_getD_inner?_iff.2 ht)
    · exact if_neg (ht ∘ DeclaredType.isFilter_getD_inner?_iff.1)

lemma isSome_roleOf? (m? : Option RoleMarker) (t : DeclaredType) :
    (roleOf? m? t).isSome = (m? != some .ignore) := by
  cases m? with
  | none =>
    rw [roleOf?]
    split_ifs <;> rfl
  | some m => cases m <;> rfl

/-- The fields that take part, row by row: all but those to be ignored, in the roles that they have
and under the names that their attributes give or else their own. -/
structure Specifies (fields : List FieldDeclaration) (rows : List SpecifiedField) : Prop where
  accepted : ∀ f ∈ fields, SpecAttribute.ofField f = .ok f.specAttribute
  fields : rows.map SpecifiedField.field =
    fields.filter fun f => f.specAttribute.role? != some .ignore
  role : ∀ r ∈ rows, HasRole r.field.specAttribute.role? r.field.type r.role
  name : ∀ r ∈ rows, r.name = r.field.specAttribute.rename?.getD r.field.name

/-- How the setting of a field is to be read. -/
structure SpecifiedField.ReadBy (r : SpecifiedField) (v : SettingArm) : Prop where
  name : v.name = r.name
  field : v.field = r.field.name
  isFilter : v.isFilter = true ↔ r.role = .filter
  throughOption : v.throughOption = true ↔
    r.role = .filter ∧ ∃ inner, r.field.type.OptionOf inner

/-- What the fields of a search hold, be it a value, a filter or one that may be left out. -/
structure Held where
  value : String → Option Scalar
  filter : String → Filter
  filter? : String → Option Filter

def SettingArm.setting (v : SettingArm) (held : Held) : Setting :=
  if v.isFilter then
    if v.throughOption then (held.filter? v.field).elim .unsetFilter .filter
    else .filter (held.filter v.field)
  else .scalar (held.value v.field)

/-- A setting of the sort that a role asks for. -/
def Setting.Suits (role : Role) : Setting → Prop
  | .unsetFilter | .filter _ => role = .filter
  | .unsetScalar | .scalar _ => role ≠ .filter
  | .missing => False

namespace Descriptors

/-- The specification that is described, given what its fields hold. -/
def specification (t : Descriptors) (held : Held) : Specification where
  fields := t.fields
  setting field :=
    (t.values.find? fun v => v.name == field).elim .missing fun v => v.setting held

lemma specification_setting (t : Descriptors) (held : Held) (field : String) :
    (t.specification held).setting field =
      (t.values.find? fun v => v.name == field).elim .missing fun v => v.setting held := rfl

/-- The lists of descriptors are of the same fields, one row each. -/
structure Lists (t : Descriptors) (rows : List SpecifiedField) : Prop where
  constants : t.constants = rows.map fun r => (constantName r.name,r.name)
  fields : t.fields = rows.map fun r => ⟨r.name,r.role⟩
  values : List.Forall₂ SpecifiedField.ReadBy rows t.values

end Descriptors

lemma SpecifiedField.ReadBy.suits {r : SpecifiedField} {v : SettingArm} (h : r.ReadBy v)
    (held : Held) : (v.setting held).Suits r.role := by
  rw [SettingArm.setting]
  split_ifs with hfilter hoption
  · cases held.filter? v.field <;> exact h.isFilter.1 hfilter
  · exact h.isFilter.1 hfilter
  · exact hfilter ∘ h.isFilter.2

namespace FieldDeclaration
variable {f : FieldDeclaration}

lemma specified?_eq_some_iff {r : SpecifiedField} : f.specified? = some r ↔ r.field = f ∧
    HasRole f.specAttribute.role? f.type r.role ∧
    r.name = f.specAttribute.rename?.getD f.name := by
  obtain ⟨field,name,role⟩ := r
  simp only [specified?,specifiedAs?,Option.map_eq_some_iff,SpecifiedField.mk.injEq,
    roleOf?_eq_some_iff]
  constructor
  · rintro ⟨_,hrole,rfl,rfl,rfl⟩; exact ⟨rfl,hrole,rfl⟩
  · rintro ⟨rfl,hrole,rfl⟩; exact ⟨role,hrole,rfl,rfl,rfl⟩

lemma isSome_specified? (f : FieldDeclaration) :
    f.specified?.isSome = (f.specAttribute.role? != some .ignore) := by
  rw [specified?,specifiedAs?,Option.isSome_map,isSome_roleOf?]

end FieldDeclaration

/-- What accepted fields are listed as. -/
lemma specifies_filterMap {fields : List FieldDeclaration}
    (accepted : ∀ f ∈ fields, ∃ o, f.specRow? = .ok o) :
    Specifies fields (fields.filterMap FieldDeclaration.specified?) where
  accepted f hf := by
    obtain ⟨o,ho⟩ := accepted f hf
    obtain ⟨a,ha,-⟩ := map_eq_ok_iff.1 ho
    rw [ha,FieldDeclaration.eq_specAttribute ha]
  fields := by
    have own (f : FieldDeclaration) (r : SpecifiedField) (h : f.specified? = some r) :
        r.field = f := (FieldDeclaration.specified?_eq_some_iff.1 h).1
    rw [map_filterMap_eq_filter own]
    simp only [FieldDeclaration.isSome_specified?]
  role r hr := by
    obtain ⟨f,-,hf⟩ := List.mem_filterMap.1 hr
    obtain ⟨rfl,hrole,-⟩ := FieldDeclaration.specified?_eq_some_iff.1 hf
    exact hrole
  name r hr := by
    obtain ⟨f,-,hf⟩ := List.mem_filterMap.1 hr
    obtain ⟨rfl,-,hname⟩ := FieldDeclaration.specified?_eq_some_iff.1 hf
    exact hname

namespace Descriptors

lemma lists_ofSpecified (rows : List SpecifiedField) : (ofSpecified rows).Lists rows where
  constants := rfl
  fields := rfl
  values := by
    refine List.forall₂_map_right_iff.2 (List.forall₂_same.2 fun r _ => ?_)
    refine ⟨rfl,rfl,beq_iff_eq,?_⟩
    simp only [← DeclaredType.inner?_eq_some_iff,← Option.isSome_iff_exists,Bool.and_eq_true,
      beq_iff_eq]

namespace Lists
variable {t : Descriptors} {rows : List SpecifiedField} {n : String}

lemma constantNames (h : t.Lists rows) :
    t.constants.map Prod.snd = rows.map SpecifiedField.name := by
  rw [h.constants,List.map_map]
  rfl

lemma fieldNames (h : t.Lists rows) :
    t.fields.map FieldDescriptor.name = rows.map SpecifiedField.name := by
  rw [h.fields,List.map_map]
  rfl

lemma valueNames (h : t.Lists rows) :
    t.values.map SettingArm.name = rows.map SpecifiedField.name :=
  map_eq_map_of_forall₂ (fun _ _ hread => hread.name) h.values

/-- The first descriptor of a name and its setting come from the same field. -/
lemma suits_of_descriptor? (h : t.Lists rows) (held : Held) {d : FieldDescriptor}
    (hd : (t.specification held).descriptor? n = some d) :
    ((t.specification held).setting n).Suits d.role := by
  rw [Specification.descriptor?,specification,h.fields,List.find?_map] at hd
  obtain ⟨r,hr,rfl⟩ := Option.map_eq_some_iff.1 hd
  obtain ⟨v,hv,hread⟩ := find?_eq_some_of_forall₂ (fun _ _ hread => hread.name) h.values hr
  rw [specification_setting,hv]
  exact hread.suits held

lemma setting_of_not_mem (h : t.Lists rows) (held : Held)
    (hn : n ∉ t.constants.map Prod.snd) : (t.specification held).setting n = .missing := by
  rw [h.constantNames,← h.valueNames] at hn
  rw [specification_setting,find?_eq_none_iff.2 hn]
  rfl

end Lists

/-- Whatever descriptors are derived from a declaration, their lists are of the fields that take
part, in the order of declaration. So the descriptor that counts for a name never disagrees with its
setting, and as far as names are distinct no descriptor does. Other names are missing. -/
theorem derive_consistent {d : Declaration} {t : Descriptors} (h : derive d = .ok t)
    (held : Held) :
    ∃ fields rows, d = .named fields ∧ Specifies fields rows ∧ t.Lists rows ∧
      (∀ n, n ∉ t.constants.map Prod.snd → (t.specification held).setting n = .missing) ∧
      (∀ n e, (t.specification held).descriptor? n = some e →
        ((t.specification held).setting n).Suits e.role) ∧
      ((t.constants.map Prod.snd).Nodup →
        ∀ e ∈ t.fields, ((t.specification held).setting e.name).Suits e.role) := by
  obtain ⟨fields,hfields,hderive⟩ := bind_eq_ok_iff.1 h
  cases d with
  | unnamed => cases hfields
  | notStructure => cases hfields
  | named fields =>
    cases hfields
    rw [ofFields_eq,map_eq_ok_iff] at hderive
    obtain ⟨rows,hlisted,rfl⟩ := hderive
    obtain ⟨accepted,-,rfl⟩ := (listed_eq_ok_iff FieldDeclaration.eq_specified?).1 hlisted
    have hlists := lists_ofSpecified (fields.filterMap FieldDeclaration.specified?)
    refine ⟨fields,_,rfl,specifies_filterMap accepted,hlists,
      fun n => hlists.setting_of_not_mem held,fun n e => hlists.suits_of_descriptor? held,?_⟩
    intro distinct e he
    rw [hlists.constantNames,← hlists.fieldNames] at distinct
    exact hlists.suits_of_descriptor? held ((find?_eq_some_iff distinct).2 ⟨he,rfl⟩)

/-- An attribute may take its role from a filter and give it to another type, and a filter inside of
two options is none. -/
theorem derive_consistent_sample :
    let filter : DeclaredType := .path "StringFilter" "StringFilter" none
    let option (t : DeclaredType) : DeclaredType := .path ("Option<" ++ t.text ++ ">") "Option" t
    let d : Declaration := .named
      [⟨"from",option filter,[⟨some "spec",some [.word (some "skip"),.word (some "skip")]⟩]⟩,
        ⟨"name",option filter,[]⟩,
        ⟨"nick",option (option filter),[]⟩,
        ⟨"token",filter,[⟨some "spec",some [.word (some "ignore")]⟩]⟩,
        ⟨"title",.other "&F",[⟨some "doc",none⟩,⟨some "spec",some
          [.word (some "filter"),.assign (some "rename") (some "jobTitle")]⟩]⟩]
    let t : Descriptors :=
      { constants := [("FROM","from"),("NAME","name"),("NICK","nick"),("JOB_TITLE","jobTitle")]
        fields := [⟨"from",.skip⟩,⟨"name",.filter⟩,⟨"nick",.plain⟩,⟨"jobTitle",.filter⟩]
        values := [⟨"from",false,"from",false⟩,⟨"name",true,"name",true⟩,
          ⟨"nick",false,"nick",false⟩,⟨"jobTitle",true,"title",false⟩] }
    derive d = .ok t ∧ (t.constants.map Prod.snd).Nodup ∧
      ∀ held : Held, (t.specification held).setting "token" = .missing ∧
        ((t.specification held).setting "jobTitle").Suits .filter ∧
        ∀ e ∈ t.fields, ((t.specification held).setting e.name).Suits e.role := by
  intro filter option d t
  have hderive : derive d = .ok t := by decide +kernel
  have distinct : (t.constants.map Prod.snd).Nodup := by decide
  refine ⟨hderive,distinct,fun held => ?_⟩
  obtain ⟨fields,rows,-,-,-,hmissing,hfirst,hdistinct⟩ := derive_consistent hderive held
  exact ⟨hmissing "token" (by decide),hfirst "jobTitle" ⟨"jobTitle",.filter⟩ rfl,
    hdistinct distinct⟩

end Descriptors
end RecordSearch

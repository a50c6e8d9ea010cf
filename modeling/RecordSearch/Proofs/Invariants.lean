import RecordSearch.MultiSearch
import RecordSearch.Proofs.Calls
import RecordSearch.Proofs.Kinds
import RecordSearch.Proofs.Selection

/-! What narrowing keeps. A property of sources that survives every step a specification asks for,
and every transform that takes the place of one, survives whole runs of calls. Of plans this says
what they are extended by: whatever holds of all that provided filters ask of fields that take them,
and of equality with a value, and of groups of what it holds of, holds of every predicate that a
search comes to add. -/
namespace RecordSearch
variable {σ : Type}

/-- The predicate by which a field narrows is what the active filter of its setting asks of it, or
equality with the value of its setting. -/
lemma Specification.step?_eq_filter {spec : Specification} {schema : Schema} {d : FieldDescriptor}
    {p : Predicate} (h : spec.step? schema d = .ok (some (.filter p))) :
    (∃ f, spec.setting d.name = .filter f ∧ schema.Takes d.name f ∧
      f.predicate? d.name = some p) ∨
    ∃ v : Scalar, schema.kind? d.name = some v.kind ∧ p = .compare d.name .eq v := by
  obtain ⟨field,role⟩ := d
  cases role with
  | filter =>
    simp only [step?] at h
    cases hf : (spec.setting field).activeFilter? with
    | none => simp [hf] at h
    | some f =>
      simp only [hf,map_eq_ok_iff,Schema.filterPredicate_eq_ok_iff,Option.map_eq_some_iff,
        Step.filter.injEq] at h
      obtain ⟨_,⟨htakes,rfl⟩,_,hp,rfl⟩ := h
      exact .inl ⟨f,((Setting.activeFilter?_eq_some_iff _ f).1 hf).1,htakes,hp⟩
  | plain =>
    simp only [step?] at h
    cases hv : (spec.setting field).scalar? with
    | none => simp [hv] at h
    | some v =>
      simp only [hv,map_eq_ok_iff,Schema.equalityPredicate_eq_ok_iff,Option.some.injEq,
        Step.filter.injEq] at h
      obtain ⟨_,⟨hk,rfl⟩,rfl⟩ := h
      exact .inr ⟨v,hk,rfl⟩
  | skip => simp [step?] at h
  | take => simp [step?] at h

/-- A transform after which a property of sources holds if it held before. -/
def Transform.Keeps (I : σ → Prop) (t : Transform σ) : Prop := ∀ source, I source → I (t source)

namespace Search

/-- A search that has kept a property so far, and whose overrides keep it. -/
structure Keeps (I : σ → Prop) (schema : Schema) (spec : Specification) (s : Search σ) :
    Prop where
  schema_eq : s.schema = schema
  spec_eq : s.spec = spec
  source : I s.source
  overrides : ∀ field t, s.overrides.find? field = some t → Transform.Keeps I t

section
variable {I : σ → Prop} {schema : Schema} {spec : Specification} {s : Search σ}

lemma keeps_start {source : σ} (h : I source) (schema : Schema) (spec : Specification)
    (applyAll paging : Bool) : (start source schema spec applyAll paging).Keeps I schema spec :=
  ⟨rfl,rfl,h,fun _ _ ht => by cases ht⟩

lemma Keeps.withOverride (h : s.Keeps I schema spec) (field : String) {t : Transform σ}
    (ht : Transform.Keeps I t) : (s.withOverride field t).Keeps I schema spec := by
  refine ⟨h.schema_eq,h.spec_eq,h.source,?_⟩
  intro other t' ht'
  exact Overrides.of_find?_insert h.overrides ht ht'

end
end Search

section
variable [Source σ]

/-- What the fields of a specification ask for by default keeps a property. -/
def Specification.Keeps (I : σ → Prop) (schema : Schema) (spec : Specification) : Prop :=
  ∀ d step, spec.step? schema d = .ok (some step) → Transform.Keeps I step.apply

/-- What a call puts in place of a default keeps a property. -/
def Call.Keeps (I : σ → Prop) (spec : Specification) : Call σ → Prop
  | .withOverride _ t => Transform.Keeps I t
  | .configure field choose => ∀ p, spec.chosen? field choose = .ok (some p) →
      Transform.Keeps I (Source.filterBy p)
  | _ => True

namespace Search
section
variable {I : σ → Prop} {schema : Schema} {spec : Specification} {s t : Search σ}

lemma Keeps.transform (h : s.Keeps I schema spec) (hspec : spec.Keeps I schema)
    {d : FieldDescriptor} {t : Transform σ} (ht : s.transform d = .ok t) :
    Transform.Keeps I t := by
  rw [Search.transform] at ht
  cases ho : s.override? d with
  | some t' =>
    rw [ho] at ht
    cases ht
    exact h.overrides d.name _ (find?_of_override? ho)
  | none =>
    simp only [ho,map_eq_ok_iff,h.spec_eq,h.schema_eq] at ht
    obtain ⟨step?,hstep,rfl⟩ := ht
    cases step? with
    | none => exact fun _ hsource => hsource
    | some step => exact hspec d step hstep

lemma Keeps.narrow (h : s.Keeps I schema spec) (hspec : spec.Keeps I schema)
    {ds : List FieldDescriptor} {source found : σ} (hsource : I source)
    (hn : s.narrow ds source = .ok found) : I found := by
  apply foldlM_induction _ hsource hn
  intro d _ b c hb hc
  obtain ⟨t,ht,rfl⟩ := map_eq_ok_iff.1 hc
  exact h.transform hspec ht b hb

/-- What one call keeps. -/
lemma Keeps.run (h : s.Keeps I schema spec) (hspec : spec.Keeps I schema) {call : Call σ}
    (hcall : call.Keeps I spec) (ht : call.run s = .ok t) : t.Keeps I schema spec := by
  cases call using Call.phaseCases with
  | phases call p hp =>
    rw [Call.run_of_phases? hp,drain,map_eq_ok_iff] at ht
    obtain ⟨source,hn,rfl⟩ := ht
    exact ⟨h.schema_eq,h.spec_eq,h.narrow hspec h.source hn,h.overrides⟩
  | allowAllProperties => cases ht; exact ⟨h.schema_eq,h.spec_eq,h.source,h.overrides⟩
  | withPaging => cases ht; exact ⟨h.schema_eq,h.spec_eq,h.source,h.overrides⟩
  | withOverride field t' => cases ht; exact h.withOverride field hcall
  | configure field choose =>
    rw [Call.run,configure_eq,map_eq_ok_iff,h.spec_eq] at ht
    obtain ⟨p?,hp,rfl⟩ := ht
    cases p? with
    | none => exact h
    | some p => exact h.withOverride field (hcall p hp)

/-- By induction over the calls: what a run keeps. -/
theorem Keeps.runAll (h : s.Keeps I schema spec) (hspec : spec.Keeps I schema)
    {calls : List (Call σ)} (hcalls : ∀ call ∈ calls, call.Keeps I spec)
    (ht : Call.runAll calls s = .ok t) : t.Keeps I schema spec := by
  apply foldlM_induction _ h ht
  intro call hmem s t hs hst
  exact hs.run hspec (hcalls call hmem) hst

lemma Keeps.finish (h : s.Keeps I schema spec) (hspec : spec.Keeps I schema) {found : σ}
    (hf : s.finish = .ok found) : I found := by
  rw [finish_eq_narrow] at hf
  exact h.narrow hspec h.source hf

end
end Search

/-- Searching one field narrows by the predicate of a filter that the field takes, or not at all. -/
lemma Source.searchField_eq_ok {schema : Schema} {f : Filter} {field : String} {source found : σ}
    (h : searchField schema field f source = .ok found) :
    found = source ∨ schema.Takes field f ∧ found = filterBy? (f.predicate? field) source := by
  rw [searchField] at h
  split_ifs at h
  · cases hs : schema.checkSelector field f with
    | error e => rw [hs] at h; cases h
    | ok u =>
      rw [hs] at h
      cases h
      exact .inr ⟨(schema.checkSelector_eq_ok_iff field f).1 hs,rfl⟩
  · cases h
    exact .inl rfl

lemma Source.keeps_filterBy? {I : σ → Prop} {p? : Option Predicate}
    (h : ∀ p, p? = some p → Transform.Keeps I (filterBy p)) : Transform.Keeps I (filterBy? p?) := by
  cases p? with
  | none => exact fun _ hsource => hsource
  | some p => exact h p rfl

end

namespace MultiSearch

/-- A search that has collected predicates of one filter, for fields that take it. -/
structure Collects (schema : Schema) (f : Filter) (source : σ) (m : MultiSearch σ) : Prop where
  source_eq : m.source = source
  schema_eq : m.schema = schema
  filter_eq : m.filter = f
  predicates : ∀ p ∈ m.predicates, ∃ field, schema.Takes field f ∧ f.predicate? field = some p

section
variable {schema : Schema} {f : Filter} {source : σ} {m m' : MultiSearch σ}

lemma Collects.on (h : m.Collects schema f source) {field : String} (hm : m.on field = .ok m') :
    m'.Collects schema f source := by
  rw [MultiSearch.on] at hm
  split_ifs at hm
  · cases hs : m.schema.checkSelector field m.filter with
    | error e => rw [hs] at hm; cases hm
    | ok u =>
      rw [hs] at hm
      cases hm
      rw [Schema.checkSelector_eq_ok_iff,h.schema_eq,h.filter_eq] at hs
      refine ⟨h.source_eq,h.schema_eq,h.filter_eq,?_⟩
      intro p hp
      rcases List.mem_append.1 hp with hp | hp
      · exact h.predicates p hp
      · rw [h.filter_eq] at hp
        exact ⟨field,hs,Option.mem_toList.1 hp⟩
  · cases hm
    exact h

/-- By induction over the fields. -/
lemma collects_of_foldlM {mode : ApplyMode} {fields : List String}
    (h : fields.foldlM on (start source schema f mode) = .ok m) :
    m.Collects schema f source := by
  apply foldlM_induction _ _ h
  · intro field _ m m' hm hon
    exact hm.on hon
  · exact ⟨rfl,rfl,rfl,fun p hp => by cases hp⟩

end
end MultiSearch

/-- What holds of everything that searching asks of fields by itself. -/
structure Schema.Ensures (schema : Schema) (P : Predicate → Prop) : Prop where
  asked : ∀ {f : Filter} {field : String} {p : Predicate}, f.Provided → schema.Takes field f →
    f.predicate? field = some p → P p
  equality : ∀ {field : String} {v : Scalar}, schema.kind? field = some v.kind →
    P (.compare field .eq v)
  combine : ∀ {mode : ApplyMode} {ps : List Predicate} {p : Predicate},
    mode.combine ps = some p → (∀ q ∈ ps, P q) → P p

namespace Plan

/-- A plan with further steps, and what all of their predicates have. -/
def Extends (P : Predicate → Prop) (plan plan' : Plan) : Prop :=
  ∃ steps, plan'.steps = plan.steps ++ steps ∧ ∀ p, .filter p ∈ steps → P p

section
variable {P : Predicate → Prop}

lemma extends_refl (plan : Plan) : plan.Extends P plan :=
  ⟨[],(List.append_nil _).symm,fun _ h => by cases h⟩

lemma Extends.trans {plan plan' plan'' : Plan} (h : plan.Extends P plan')
    (h' : plan'.Extends P plan'') : plan.Extends P plan'' := by
  obtain ⟨steps,hsteps,hP⟩ := h
  obtain ⟨steps',hsteps',hP'⟩ := h'
  refine ⟨steps ++ steps',by rw [hsteps',hsteps,List.append_assoc],?_⟩
  intro p hp
  rcases List.mem_append.1 hp with hp | hp
  · exact hP p hp
  · exact hP' p hp

/-- A step that is no predicate, or one with the property. -/
lemma keeps_apply (step : Step) (h : ∀ p, step = .filter p → P p) (plan : Plan) :
    Transform.Keeps (plan.Extends P) step.apply := by
  intro plan' hplan'
  have hstep : plan'.Extends P (Step.applyAll [step] plan') := by
    refine ⟨[step],by rw [Step.applyAll_plan],?_⟩
    intro p hp
    exact h p (List.mem_singleton.1 hp).symm
  exact hplan'.trans hstep

lemma keeps_filterBy {p : Predicate} (h : P p) (plan : Plan) :
    Transform.Keeps (plan.Extends P) (Source.filterBy p) :=
  keeps_apply (.filter p) (fun q hq => by cases hq; exact h) plan

end
end Plan

section
variable {schema : Schema} {P : Predicate → Prop} (hP : schema.Ensures P)
include hP

lemma Specification.keeps_extends {spec : Specification}
    (provided : ∀ field f, spec.setting field = .filter f → f.Provided) (plan : Plan) :
    spec.Keeps (plan.Extends P) schema := by
  intro d step hstep
  apply Plan.keeps_apply
  rintro p rfl
  obtain ⟨f,hset,htakes,hp⟩ | ⟨v,hkind,rfl⟩ := spec.step?_eq_filter hstep
  · exact hP.asked (provided _ f hset) htakes hp
  · exact hP.equality hkind

/-- A configuring call adds what a configuration asks of its targets. -/
lemma Call.keeps_configure {spec : Specification} {field : String}
    {choose : Configuration → Except SearchError FieldOverride}
    (h : ∀ f o, spec.setting field = .filter f → choose (.start field f) = .ok o →
      ∃ d mode, o = Configuration.withMode d mode ∧ ∀ target ∈ d.targets, ∀ p,
        d.filter.predicate? target = some p → P p) (plan : Plan) :
    (Call.configure field choose).Keeps (plan.Extends P) spec := by
  intro p hp
  obtain ⟨f,o,hset,-,ho,hpredicate⟩ := Specification.chosen?_eq_some hp
  obtain ⟨d,mode,rfl,hd⟩ := h f o hset ho
  apply Plan.keeps_filterBy
  apply hP.combine hpredicate
  intro q hq
  obtain ⟨target,hmem,hq⟩ := List.mem_filterMap.1 hq
  exact hd target hmem q hq

/-- What a run adds to a plan, and then what finishing adds. -/
lemma Search.extends_runAll {spec : Specification}
    (provided : ∀ field f, spec.setting field = .filter f → f.Provided) {plan : Plan}
    {calls : List (Call Plan)} (hcalls : ∀ call ∈ calls, call.Keeps (plan.Extends P) spec)
    {applyAll paging : Bool} {s : Search Plan}
    (hrun : Call.runAll calls (start plan schema spec applyAll paging) = .ok s) :
    plan.Extends P s.source ∧ ∀ found, s.finish = .ok found → plan.Extends P found := by
  have hspec := Specification.keeps_extends hP provided plan
  have hstart : (start plan schema spec applyAll paging).Keeps (plan.Extends P) schema spec :=
    keeps_start plan.extends_refl schema spec applyAll paging
  have hs := hstart.runAll hspec hcalls hrun
  exact ⟨hs.source,fun found hfound => hs.finish hspec hfound⟩

lemma Source.extends_searchField {f : Filter} (hf : f.Provided) {field : String}
    {plan found : Plan} (h : searchField schema field f plan = .ok found) :
    plan.Extends P found := by
  obtain rfl | ⟨htakes,rfl⟩ := searchField_eq_ok h
  · exact found.extends_refl
  · apply keeps_filterBy? _ _ plan.extends_refl
    exact fun p hp => plan.keeps_filterBy (hP.asked hf htakes hp)

lemma MultiSearch.extends_apply {f : Filter} (hf : f.Provided) {mode : ApplyMode}
    {fields : List String} {plan : Plan} {m : MultiSearch Plan}
    (h : fields.foldlM on (start plan schema f mode) = .ok m) : plan.Extends P m.apply := by
  have hm := collects_of_foldlM h
  rw [apply,hm.source_eq]
  apply Source.keeps_filterBy? _ _ plan.extends_refl
  intro p hp
  apply plan.keeps_filterBy
  apply hP.combine hp
  intro q hq
  obtain ⟨field,htakes,hq⟩ := hm.predicates q hq
  exact hP.asked hf htakes hq

end

lemma Rooms.provided_spec (field : String) (f : Filter) (h : spec.setting field = .filter f) :
    f.Provided := by
  simp only [spec] at h
  split_ifs at h
  cases h
  exact .boolean _

end RecordSearch

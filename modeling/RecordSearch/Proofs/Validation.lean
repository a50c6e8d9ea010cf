import RecordSearch.Proofs.Narrowing

/-! Validation as a run without a source. Checking the waiting fields goes through the fields that
paging goes through, in the same order, and looks at what each of them would do without doing it. -/
namespace RecordSearch
namespace Search
variable {σ : Type} [Source σ]

/-- What is left of a field's transform when there is no source to narrow. -/
def check (s : Search σ) (d : FieldDescriptor) : Except SearchError Unit :=
  (s.transform d).map fun _ => ()

lemma checkFilter_eq (s : Search σ) (field : String) :
    s.checkFilter field = s.check ⟨field,.filter⟩ := by
  cases h : s.overrides.find? field with
  | some t => simp [checkFilter,check,transform,override?,Overrides.has,h,Except.map]
  | none =>
    simp only [checkFilter,check,transform,override?,Overrides.has,Specification.step?,h]
    cases (s.spec.setting field).activeFilter? with
    | none => rfl
    | some f => cases hp : s.schema.filterPredicate field f <;> simp [Except.map,hp]

lemma checkPlain_eq (s : Search σ) (field : String) :
    s.checkPlain field = s.check ⟨field,.plain⟩ := by
  cases h : s.overrides.find? field with
  | some t => simp [checkPlain,check,transform,override?,Overrides.has,h,Except.map]
  | none =>
    simp only [checkPlain,check,transform,override?,Overrides.has,Specification.step?,h]
    cases (s.spec.setting field).scalar? with
    | none => rfl
    | some v => cases hp : s.schema.equalityPredicate field v <;> simp [Except.map,hp]

/-- Skips and takes are checked alike. -/
lemma checkCount_eq (s : Search σ) (field : String) :
    s.checkCount field = s.check ⟨field,.skip⟩ ∧ s.checkCount field = s.check ⟨field,.take⟩ := by
  simp only [checkCount,check,transform,override?,Specification.step?]
  cases pagingSetting field (s.spec.setting field) <;> exact ⟨rfl,rfl⟩

/-- Checking fields one after the other fails as narrowing by them does. -/
lemma forM_check (s : Search σ) (ds : List FieldDescriptor) (source : σ) :
    forM ds s.check = (s.narrow ds source).map fun _ => () := by
  induction ds generalizing source with
  | nil => rfl
  | cons d ds ih =>
    rw [List.forM_cons,narrow_cons,check]
    cases s.transform d with
    | error e => rfl
    | ok t => exact ih (t source)

lemma validate_eq_forM (s : Search σ) : s.validate = forM (s.waiting .all) s.check := by
  have hf : forM s.filters s.checkFilter = forM (s.filters.map (⟨·,.filter⟩)) s.check := by
    rw [List.forM_map,funext s.checkFilter_eq]
  have hp : forM s.plain s.checkPlain = forM (s.plain.map (⟨·,.plain⟩)) s.check := by
    rw [List.forM_map,funext s.checkPlain_eq]
  have hs : forM s.skips s.checkCount = forM (s.skips.map (⟨·,.skip⟩)) s.check := by
    rw [List.forM_map,funext fun field => (s.checkCount_eq field).1]
  have ht : forM s.takes s.checkCount = forM (s.takes.map (⟨·,.take⟩)) s.check := by
    rw [List.forM_map,funext fun field => (s.checkCount_eq field).2]
  simp only [validate,List.forM_eq_forM,List.forM_append,hf,hp,hs,ht,waiting,Phases.all]
  cases s.applyAll <;> simp

/-- Validation is paging with the source left out. -/
theorem validate_eq_applyPaging (s : Search σ) : s.validate = s.applyPaging.map fun _ => () := by
  rw [validate_eq_forM,forM_check s _ s.source,applyPaging_eq,drain]
  cases s.narrow (s.waiting .all) s.source <;> rfl

/-- In every state, whatever is overridden and whatever phases have run, validation succeeds
exactly if paging does, and otherwise reports the same error. -/
theorem validate_agrees_with_applyPaging (s : Search σ) :
    (s.validate = .ok () ↔ ∃ t, s.applyPaging = .ok t) ∧
      ∀ e, s.validate = .error e ↔ s.applyPaging = .error e := by
  rw [validate_eq_applyPaging]
  cases s.applyPaging with
  | error e => simp [Except.map]
  | ok t => simp [Except.map]

end Search
end RecordSearch

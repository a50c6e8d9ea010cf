import RecordSearch.Proofs.Attempts
import RecordSearch.Search

/-! Phases as passes over fields. Every phase of a search does one thing: it goes through waiting
fields and narrows the source by what each of them asks. What a field asks does not depend on the
source, so phases that follow one another are a single pass over the fields of all of them. -/
namespace RecordSearch

namespace Specification

/-- The step by which a field narrows a source that nothing overrides, or why it cannot. -/
def step? (spec : Specification) (schema : Schema) (d : FieldDescriptor) :
    Except SearchError (Option Step) :=
  match d.role with
  | .filter =>
    match (spec.setting d.name).activeFilter? with
    | none => .ok none
    | some f => (schema.filterPredicate d.name f).map (·.map Step.filter)
  | .plain =>
    match (spec.setting d.name).scalar? with
    | none => .ok none
    | some value => (schema.equalityPredicate d.name value).map fun p => some (.filter p)
  | .skip => (pagingSetting d.name (spec.setting d.name)).map (·.map Step.skip)
  | .take => (pagingSetting d.name (spec.setting d.name)).map (·.map Step.take)

end Specification

/-- The phases that a call runs. -/
structure Phases where
  filters : Bool := false
  plain : Bool := false
  skips : Bool := false
  takes : Bool := false

namespace Phases

def predicates : Phases := { filters := true, plain := true }
def all : Phases := ⟨true,true,true,true⟩

end Phases

/-- What all overrides have, they have after one more that has it. -/
lemma Overrides.of_find?_insert {σ : Type} {Q : Transform σ → Prop} {o : Overrides σ}
    (h : ∀ field t, o.find? field = some t → Q t) {field other : String} {t u : Transform σ}
    (ht : Q t) (hu : (o.insert field t).find? other = some u) : Q u := by
  rw [find?_insert] at hu
  split_ifs at hu
  · cases hu
    exact ht
  · exact h other u hu

namespace Search
variable {σ : Type}

/-- The transform that replaces the step of a field; paging fields have none. -/
def override? (s : Search σ) (d : FieldDescriptor) : Option (Transform σ) :=
  match d.role with
  | .filter | .plain => s.overrides.find? d.name
  | .skip | .take => none

lemma find?_of_override? {s : Search σ} {d : FieldDescriptor} {t : Transform σ}
    (h : s.override? d = some t) : s.overrides.find? d.name = some t := by
  obtain ⟨field,role⟩ := d
  cases role with
  | filter => exact h
  | plain => exact h
  | skip => cases h
  | take => cases h

/-- The fields that the given phases go through, in the order of the phases. -/
def waiting (s : Search σ) (p : Phases) : List FieldDescriptor :=
  (if p.filters then s.filters.map (⟨·,.filter⟩) else []) ++
    (if p.plain && s.applyAll then s.plain.map (⟨·,.plain⟩) else []) ++
    (if p.skips then s.skips.map (⟨·,.skip⟩) else []) ++
    (if p.takes then s.takes.map (⟨·,.take⟩) else [])

/-- The fields that finishing a search goes through. -/
def pending (s : Search σ) : List FieldDescriptor :=
  s.waiting (if s.paging then .all else .predicates)

/-- The search after the given phases, which left `source`. -/
def drained (s : Search σ) (p : Phases) (source : σ) : Search σ :=
  { s with
    source
    filters := if p.filters then [] else s.filters
    plain := if p.plain then [] else s.plain
    skips := if p.skips then [] else s.skips
    takes := if p.takes then [] else s.takes }

/-- Finishing goes through the predicates, and then through paging if that is on. -/
lemma pending_eq (s : Search σ) : s.pending =
    s.waiting .predicates ++ if s.paging then s.waiting { skips := true, takes := true } else [] := by
  cases h : s.paging <;> simp [pending,waiting,h,Phases.all,Phases.predicates]

@[simp] lemma paging_drained (s : Search σ) (p : Phases) (source : σ) :
    (s.drained p source).paging = s.paging := rfl

variable [Source σ]

/-- What a waiting field does to the source. -/
def transform (s : Search σ) (d : FieldDescriptor) : Except SearchError (Transform σ) :=
  match s.override? d with
  | some t => .ok t
  | none => (s.spec.step? s.schema d).map fun step => Step.applyAll step.toList

/-- Narrows a source by one field after the other. -/
def narrow (s : Search σ) (ds : List FieldDescriptor) (source : σ) : Except SearchError σ :=
  ds.foldlM (fun source d => (s.transform d).map (· source)) source

/-- Runs phases, in their order. -/
def drain (s : Search σ) (p : Phases) : Except SearchError (Search σ) :=
  (s.narrow (s.waiting p) s.source).map (s.drained p)

lemma applyFilter_eq (s : Search σ) (source : σ) (field : String) :
    s.applyFilter source field = (s.transform ⟨field,.filter⟩).map (· source) := by
  simp only [applyFilter, transform, override?, Specification.step?]
  cases s.overrides.find? field with
  | some t => rfl
  | none =>
    cases (s.spec.setting field).activeFilter? with
    | none => rfl
    | some f =>
      cases h : s.schema.filterPredicate field f with
      | error e => simp [Except.map,h]
      | ok p => cases p <;> simp [Except.map,h,Source.filterBy?,Step.applyAll,Step.apply]

lemma applyPlain_eq (s : Search σ) (source : σ) (field : String) :
    s.applyPlain source field = (s.transform ⟨field,.plain⟩).map (· source) := by
  simp only [applyPlain, transform, override?, Specification.step?]
  cases s.overrides.find? field with
  | some t => rfl
  | none =>
    cases (s.spec.setting field).scalar? with
    | none => rfl
    | some v =>
      cases h : s.schema.equalityPredicate field v <;>
        simp [Except.map,h,Step.applyAll,Step.apply]

lemma applyCount_skip_eq (s : Search σ) (source : σ) (field : String) :
    s.applyCount Source.skip source field = (s.transform ⟨field,.skip⟩).map (· source) := by
  simp only [applyCount, transform, override?, Specification.step?]
  rcases pagingSetting field (s.spec.setting field) with e | _ | n <;> rfl

lemma applyCount_take_eq (s : Search σ) (source : σ) (field : String) :
    s.applyCount Source.take source field = (s.transform ⟨field,.take⟩).map (· source) := by
  simp only [applyCount, transform, override?, Specification.step?]
  rcases pagingSetting field (s.spec.setting field) with e | _ | n <;> rfl

@[simp] lemma narrow_nil (s : Search σ) (source : σ) : s.narrow [] source = .ok source := rfl

lemma narrow_cons (s : Search σ) (d : FieldDescriptor) (ds : List FieldDescriptor) (source : σ) :
    s.narrow (d::ds) source = s.transform d >>= fun t => s.narrow ds (t source) := by
  simp only [narrow,List.foldlM_cons]
  cases s.transform d <;> rfl

lemma narrow_append (s : Search σ) (ds es : List FieldDescriptor) (source : σ) :
    s.narrow (ds ++ es) source = s.narrow ds source >>= s.narrow es := List.foldlM_append

/-- A phase that goes through a queue is a pass over it. -/
lemma narrow_map (s : Search σ) (role : Role) (fields : List String) (source : σ)
    (step : σ → String → Except SearchError σ)
    (hstep : ∀ source field, step source field = (s.transform ⟨field,role⟩).map (· source)) :
    s.narrow (fields.map (⟨·,role⟩)) source = fields.foldlM step source := by
  rw [narrow,List.foldlM_map]
  congr 1
  funext source field
  exact (hstep source field).symm

lemma drain_bind {α : Type} (s : Search σ) (p : Phases) (next : Search σ → Except SearchError α) :
    s.drain p >>= next =
      s.narrow (s.waiting p) s.source >>= fun source => next (s.drained p source) := by
  rw [drain]
  cases s.narrow (s.waiting p) s.source <;> rfl

/-- Phases that follow one another are one pass. -/
lemma drain_bind_drain (s : Search σ) (p q r : Phases)
    (hw : ∀ source, s.waiting r = s.waiting p ++ (s.drained p source).waiting q)
    (hd : ∀ a b, (s.drained p a).drained q b = s.drained r b) :
    (s.drain p >>= fun t => t.drain q) = s.drain r := by
  rw [drain_bind,drain,hw s.source,narrow_append]
  cases s.narrow (s.waiting p) s.source with
  | error e => rfl
  | ok source =>
    have h : (s.drained p source).drained q = s.drained r := funext (hd source)
    change (s.narrow ((s.drained p source).waiting q) source).map _ = _
    rw [h]
    rfl

lemma applyFilters_eq (s : Search σ) : s.applyFilters = s.drain { filters := true } := by
  have hw : s.waiting { filters := true } = s.filters.map (⟨·,.filter⟩) := by simp [waiting]
  rw [drain,hw,narrow_map _ _ _ _ _ s.applyFilter_eq,applyFilters]
  cases s.filters.foldlM s.applyFilter s.source <;> rfl

lemma applyPlainFields_eq (s : Search σ) : s.applyPlainFields = s.drain { plain := true } := by
  rw [drain,applyPlainFields]
  split_ifs with h
  · have hw : s.waiting { plain := true } = s.plain.map (⟨·,.plain⟩) := by simp [waiting,h]
    rw [hw,narrow_map _ _ _ _ _ s.applyPlain_eq]
    cases s.plain.foldlM s.applyPlain s.source <;> rfl
  · have hw : s.waiting { plain := true } = [] := by simp [waiting,h]
    rw [hw]
    rfl

lemma applyPredicates_eq (s : Search σ) : s.applyPredicates = s.drain .predicates := by
  rw [applyPredicates,applyFilters_eq]
  simp only [applyPlainFields_eq]
  apply drain_bind_drain
  · intro source; simp [waiting,drained,Phases.predicates]
  · intro a b; rfl

/-- Whatever comes after the predicates makes one pass with them. -/
lemma applyPredicates_bind_drain (s : Search σ) (skips takes : Bool) :
    (s.applyPredicates >>= fun t => t.drain ⟨false,false,skips,takes⟩) =
      s.drain ⟨true,true,skips,takes⟩ := by
  rw [applyPredicates_eq]
  apply drain_bind_drain
  · intro source; simp [waiting,drained,Phases.predicates]
  · intro a b; rfl

lemma applySkip_eq (s : Search σ) : s.applySkip = s.drain ⟨true,true,true,false⟩ := by
  rw [← applyPredicates_bind_drain,applySkip]
  congr 1
  funext t
  have hw : t.waiting ⟨false,false,true,false⟩ = t.skips.map (⟨·,.skip⟩) := by simp [waiting]
  rw [drain,hw,narrow_map _ _ _ _ _ t.applyCount_skip_eq]
  cases t.skips.foldlM (t.applyCount Source.skip) t.source <;> rfl

lemma applyTake_eq (s : Search σ) : s.applyTake = s.drain ⟨true,true,false,true⟩ := by
  rw [← applyPredicates_bind_drain,applyTake]
  congr 1
  funext t
  have hw : t.waiting ⟨false,false,false,true⟩ = t.takes.map (⟨·,.take⟩) := by simp [waiting]
  rw [drain,hw,narrow_map _ _ _ _ _ t.applyCount_take_eq]
  cases t.takes.foldlM (t.applyCount Source.take) t.source <;> rfl

lemma applyPaging_eq (s : Search σ) : s.applyPaging = s.drain .all := by
  rw [applyPaging,applySkip_eq]
  simp only [applyTake_eq]
  apply drain_bind_drain
  · intro source; simp [waiting,drained,Phases.all]
  · intro a b; rfl

lemma finish_of_not_paging (s : Search σ) (h : s.paging = false) :
    s.finish = s.applyPredicates.map source := by
  rw [finish,applyPredicates_eq,drain_bind,drain]
  simp only [paging_drained,h]
  cases s.narrow (s.waiting .predicates) s.source <;> rfl

lemma finish_of_paging (s : Search σ) (h : s.paging = true) :
    s.finish = s.applyPaging.map source := by
  have hd : (s.drain .predicates >>= fun t => t.drain .all) = s.drain .all := by
    apply drain_bind_drain
    · intro source; simp [waiting,drained,Phases.predicates,Phases.all]
    · intro a b; rfl
  rw [applyPaging_eq,← hd,finish,applyPredicates_eq,drain_bind,drain_bind]
  simp only [paging_drained,h,if_true,applyPaging_eq]
  cases s.narrow (s.waiting .predicates) s.source with
  | error e => rfl
  | ok source =>
    change (s.drained .predicates source).drain .all >>= _ =
      ((s.drained .predicates source).drain .all).map _
    cases (s.drained .predicates source).drain .all <;> rfl

/-- Finishing a search is one pass over the fields that wait. -/
theorem finish_eq_narrow (s : Search σ) : s.finish = s.narrow s.pending s.source := by
  cases h : s.paging with
  | false =>
    have hp : s.pending = s.waiting .predicates := by simp [pending,h]
    rw [finish_of_not_paging s h,applyPredicates_eq,drain,hp]
    cases s.narrow (s.waiting .predicates) s.source <;> rfl
  | true =>
    have hp : s.pending = s.waiting .all := by simp [pending,h]
    rw [finish_of_paging s h,applyPaging_eq,drain,hp]
    cases s.narrow (s.waiting .all) s.source <;> rfl

end Search
end RecordSearch

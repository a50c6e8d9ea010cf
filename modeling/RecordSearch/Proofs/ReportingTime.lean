import RecordSearch.Proofs.Calls
import RecordSearch.Proofs.Outcome
import RecordSearch.Proofs.Validation
import RecordSearch.Search.Options

/-! When errors are reported. Validation at the start looks at every field that the search will
apply, and at paging fields even if paging is off and they will not be applied. So it makes no
difference when errors are reported, but for faults of paging fields in a search that does not
page. -/
namespace RecordSearch
namespace Search
variable {σ : Type}

/-- The fields that validation looks at and finishing does not go through. -/
def unapplied (s : Search σ) : List FieldDescriptor :=
  if s.paging then [] else s.waiting { skips := true, takes := true }

lemma unapplied_start (source : σ) (schema : Schema) (spec : Specification)
    (applyAll paging : Bool) : (start source schema spec applyAll paging).unapplied =
      if paging then [] else spec.ofRole .skip ++ spec.ofRole .take := by
  cases paging <;> simp [unapplied,waiting,start,Specification.map_named]

lemma waiting_all (s : Search σ) : s.waiting .all = s.pending ++ s.unapplied := by
  have hall : s.waiting .all =
      s.waiting .predicates ++ s.waiting { skips := true, takes := true } := by
    simp [waiting,Phases.all,Phases.predicates]
  rw [hall,pending_eq,unapplied]
  split_ifs <;> simp

lemma startWith_atStart_bind {α : Type} (source : σ) (schema : Schema) (spec : Specification)
    (o : SearchOptions) (next : Search σ → Except SearchError α) :
    startWith source schema spec { o with validation := .atStart } >>= next =
      (start source schema spec o.applyAllProperties o.applyPaging).validate >>= fun _ =>
        next (start source schema spec o.applyAllProperties o.applyPaging) := by
  change ((start source schema spec o.applyAllProperties o.applyPaging).validate >>= fun _ =>
    Except.ok (start source schema spec o.applyAllProperties o.applyPaging)) >>= next = _
  cases (start source schema spec o.applyAllProperties o.applyPaging).validate <;> rfl

variable [Source σ]

/-- Finishing a search once it is validated is finishing it and then looking at what was not
applied. -/
lemma validate_bind_finish (s : Search σ) : (s.validate >>= fun _ => s.finish) =
    s.finish >>= fun found => (s.narrow s.unapplied found).map fun _ => found := by
  rw [validate_eq_forM,forM_check s _ s.source,finish_eq_narrow,waiting_all,narrow_append]
  cases s.narrow s.pending s.source with
  | error e => rfl
  | ok found =>
    change ((s.narrow s.unapplied found).map fun _ => ()) >>= (fun _ => Except.ok found) =
      (s.narrow s.unapplied found).map fun _ => found
    cases s.narrow s.unapplied found <;> rfl

/-- What validation at the start changes. An error that the search has anyway is reported first. If
the search has none, and paging is off, then the first fault of a paging field is reported although
no paging field would be applied. Otherwise it does not matter when errors are reported. -/
theorem startWith_atStart_finish (source : σ) (schema : Schema) (spec : Specification)
    (o : SearchOptions) :
    let atStart := startWith source schema spec { o with validation := .atStart } >>= finish
    let onUse := startWith source schema spec { o with validation := .onUse } >>= finish
    let unapplied := if o.applyPaging then [] else spec.ofRole .skip ++ spec.ofRole .take
    (∀ e, atStart = .error e ↔
      onUse = .error e ∨ (∃ found, onUse = .ok found) ∧ FirstFault schema spec unapplied e) ∧
    (∀ found, atStart = .ok found ↔
      onUse = .ok found ∧ ∀ d ∈ unapplied, Applicable schema spec d) ∧
    (atStart = onUse ↔
      (∃ e, onUse = .error e) ∨ ∀ d ∈ unapplied, Applicable schema spec d) := by
  intro atStart onUse unapplied
  let s := start source schema spec o.applyAllProperties o.applyPaging
  have honUse : onUse = s.finish := rfl
  have hatStart : atStart =
      s.finish >>= fun found => (s.narrow unapplied found).map fun _ => found := by
    have hunapplied : s.unapplied = unapplied := unapplied_start source schema spec _ _
    rw [← hunapplied,← validate_bind_finish]
    exact startWith_atStart_bind source schema spec o finish
  rw [hatStart,honUse]
  cases s.finish with
  | error e =>
    change (∀ e', Except.error e = .error e' ↔ _) ∧ (∀ found, Except.error e = .ok found ↔ _) ∧
      (Except.error e = Except.error e ↔ _)
    simp
  | ok found =>
    have herror : ∀ e, (s.narrow unapplied found).map (fun _ => found) = .error e ↔
        FirstFault schema spec unapplied e := by
      intro e
      rw [map_eq_error_iff]
      exact narrow_eq_error_iff s rfl unapplied found e
    have hok : ∀ found', (s.narrow unapplied found).map (fun _ => found) = .ok found' ↔
        found = found' ∧ ∀ d ∈ unapplied, Applicable schema spec d := by
      intro found'
      simp only [map_eq_ok_iff,narrow_eq_ok_iff s rfl]
      constructor
      · rintro ⟨_,⟨hall,-⟩,hfound⟩; exact ⟨hfound,hall⟩
      · rintro ⟨hfound,hall⟩; exact ⟨_,⟨hall,rfl⟩,hfound⟩
    change (∀ e, (s.narrow unapplied found).map _ = .error e ↔ _) ∧
      (∀ found', (s.narrow unapplied found).map _ = .ok found' ↔ _) ∧
      ((s.narrow unapplied found).map _ = .ok found ↔ _)
    simp [herror,hok]

end Search

/-- Skips a negative number of rooms. -/
def Rooms.backwardSpec : Specification where
  fields := [⟨"offset",.skip⟩]
  setting _ := .scalar (some (.number (.signed (-1))))

namespace Search

/-- A paging field that is not applied makes the search fail if errors are reported at the start. -/
theorem startWith_atStart_ne_onUse :
    (startWith Rooms.rooms Rooms.schema Rooms.backwardSpec ⟨false,false,.atStart⟩ >>= finish) =
        .error (.invalidPaging "offset" (.number (.signed (-1)))) ∧
      (startWith Rooms.rooms Rooms.schema Rooms.backwardSpec ⟨false,false,.onUse⟩ >>= finish) =
        .ok Rooms.rooms :=
  ⟨rfl,rfl⟩

end Search
end RecordSearch

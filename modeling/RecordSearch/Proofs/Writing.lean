import Mathlib.Logic.Function.Basic
import RecordSearch.Proofs.Queues
import RecordSearch.Proofs.Selection
import RecordSearch.Proofs.Trace

/-! Searches that write steps. Where all overrides apply steps, as configuring a field makes them
do, a search does the same to every source: what its fields ask for is a list of steps, which the
specification, the schema and the overrides settle, and narrowing applies that list. -/
namespace RecordSearch

namespace Overrides
variable {σ : Type} [Source σ]

/-- Every override applies the steps written for its field. -/
def Writes (o : Overrides σ) (written : String → Option (List Step)) : Prop :=
  ∀ field, o.find? field = (written field).map Step.applyAll

lemma writes_empty : (empty : Overrides σ).Writes fun _ => none := fun _ => rfl

lemma Writes.insert {o : Overrides σ} {written : String → Option (List Step)} (h : o.Writes written)
    (field : String) (steps : List Step) :
    (o.insert field (Step.applyAll steps)).Writes (Function.update written field (some steps)) := by
  intro other
  rw [find?_insert,Function.update_apply]
  by_cases hf : field = other
  · rw [if_pos hf,if_pos hf.symm]
    rfl
  · rw [if_neg hf,if_neg (Ne.symm hf),h other]

end Overrides

namespace Step

/-- The rank of the roles whose fields ask for such a step. -/
def rank : Step → Nat
  | filter _ => 0
  | skip _ => 1
  | take _ => 2

lemma rank_eq_zero_iff {step : Step} : step.rank = 0 ↔ ∃ p, step = .filter p := by
  cases step <;> simp [rank]

end Step

namespace Specification
variable (spec : Specification) (schema : Schema) (written : String → Option (List Step))

/-- The steps that a field asks for: those written for it, or else its own. Nothing is written for
paging fields. -/
def asks (d : FieldDescriptor) : Except SearchError (List Step) :=
  match d.role,written d.name with
  | .filter,some steps | .plain,some steps => .ok steps
  | _,_ => (spec.step? schema d).map Option.toList

/-- The steps that a field asks for, and none if it has an error. -/
def given (d : FieldDescriptor) : List Step := (spec.asks schema written d).toOption.getD []

/-- The steps of one field after the other, as long as none has an error. -/
def collect : List FieldDescriptor → Except SearchError (List Step)
  | [] => .ok []
  | d::ds => do return (← spec.asks schema written d) ++ (← collect ds)

/-- Collecting succeeds if every field does, whatever their order. -/
lemma collect_eq_ok_iff (ds : List FieldDescriptor) (steps : List Step) :
    spec.collect schema written ds = .ok steps ↔
      (∀ d ∈ ds, spec.asks schema written d = .ok (spec.given schema written d)) ∧
        steps = ds.flatMap (spec.given schema written) := by
  induction ds generalizing steps with
  | nil => simp [collect,eq_comm]
  | cons d ds ih =>
    rw [collect,List.forall_mem_cons,List.flatMap_cons]
    cases hd : spec.asks schema written d with
    | error e =>
      constructor
      · rintro ⟨⟩
      · rintro ⟨⟨⟨⟩,-⟩,-⟩
    | ok own =>
      have hown : spec.given schema written d = own := by rw [given,hd]; rfl
      rw [hown]
      cases hds : spec.collect schema written ds with
      | error e =>
        rw [hds] at ih
        constructor
        · rintro ⟨⟩
        · rintro ⟨⟨-,hall⟩,-⟩
          cases (ih _).2 ⟨hall,rfl⟩
      | ok rest =>
        obtain ⟨hall,rfl⟩ := (ih rest).1 hds
        constructor
        · rintro ⟨⟩
          exact ⟨⟨rfl,hall⟩,rfl⟩
        · rintro ⟨-,rfl⟩
          rfl

/-- What is written is one predicate for each field that anything is written for. -/
def OnePredicate (written : String → Option (List Step)) : Prop :=
  ∀ field steps, written field = some steps → ∃ p, steps = [.filter p]

section
variable {spec schema written}

/-- A field's own step has the field's place. -/
lemma rank_of_step? {d : FieldDescriptor} {step : Step}
    (h : spec.step? schema d = .ok (some step)) : step.rank = d.role.rank := by
  obtain ⟨field,role⟩ := d
  cases role with
  | filter =>
    simp only [step?] at h
    cases hf : (spec.setting field).activeFilter? with
    | none => simp [hf] at h
    | some f =>
      simp only [hf,map_eq_ok_iff,Option.map_eq_some_iff] at h
      obtain ⟨_,-,_,-,rfl⟩ := h
      rfl
  | plain =>
    simp only [step?] at h
    cases hv : (spec.setting field).scalar? with
    | none => simp [hv] at h
    | some v =>
      simp only [hv,map_eq_ok_iff,Option.some.injEq] at h
      obtain ⟨_,-,rfl⟩ := h
      rfl
  | skip | take =>
    simp only [step?,map_eq_ok_iff,Option.map_eq_some_iff] at h
    obtain ⟨_,-,_,-,rfl⟩ := h
    rfl

variable (spec schema written) in
/-- A field asks for what is written for it, which is no paging field then, or for its own step. -/
lemma asks_cases (d : FieldDescriptor) :
    (∃ steps, written d.name = some steps ∧ d.role.rank = 0 ∧
      spec.asks schema written d = .ok steps) ∨
    spec.asks schema written d = (spec.step? schema d).map Option.toList := by
  obtain ⟨field,role⟩ := d
  cases hw : written field with
  | none => right; cases role <;> simp only [asks,hw]
  | some steps => cases role <;> simp [asks,hw,Role.rank]

/-- Where configuring has written what is written, a field asks for one step at most, in its
place. -/
lemma rank_of_asks (hw : OnePredicate written) {d : FieldDescriptor} {steps : List Step}
    (h : spec.asks schema written d = .ok steps) :
    steps.length ≤ 1 ∧ ∀ step ∈ steps, step.rank = d.role.rank := by
  obtain ⟨own,hown,hrank,hasks⟩ | hasks := asks_cases spec schema written d
  · cases hasks.symm.trans h
    obtain ⟨p,rfl⟩ := hw _ _ hown
    simp [Step.rank,hrank]
  · rw [hasks,map_eq_ok_iff] at h
    obtain ⟨step?,hstep,rfl⟩ := h
    cases step? with
    | none => simp
    | some step => simpa using rank_of_step? hstep

/-- What a field gives is one step at most, in the field's place. -/
lemma rank_of_given (hw : OnePredicate written) (d : FieldDescriptor) :
    (spec.given schema written d).length ≤ 1 ∧
      ∀ step ∈ spec.given schema written d, step.rank = d.role.rank := by
  rw [given]
  cases h : spec.asks schema written d with
  | error e => exact ⟨Nat.zero_le 1,fun step hstep => by cases hstep⟩
  | ok steps => exact rank_of_asks hw h

end

end Specification

variable {σ : Type} [Source σ]

namespace Search
variable {s : Search σ} {written : String → Option (List Step)}

lemma transform_of_writes (h : s.overrides.Writes written) (d : FieldDescriptor) :
    s.transform d = (s.spec.asks s.schema written d).map Step.applyAll := by
  obtain ⟨field,role⟩ := d
  have own : ∀ x : Except SearchError (Option Step),
      (x.map fun step => Step.applyAll (σ := σ) step.toList) =
        (x.map Option.toList).map Step.applyAll := by
    rintro (e | step) <;> rfl
  cases role with
  | filter | plain =>
    simp only [transform,override?,h field,Specification.asks]
    cases written field with
    | none => exact own _
    | some steps => rfl
  | skip | take => exact own _

/-- Narrowing applies the steps that the fields ask for, which no source has a part in. -/
theorem narrow_of_writes (h : s.overrides.Writes written) (ds : List FieldDescriptor) (source : σ) :
    s.narrow ds source = (s.spec.collect s.schema written ds).map (Step.applyAll · source) := by
  induction ds generalizing source with
  | nil => rfl
  | cons d ds ih =>
    rw [narrow_cons,transform_of_writes h,Specification.collect]
    cases s.spec.asks s.schema written d with
    | error e => rfl
    | ok own =>
      change s.narrow ds (Step.applyAll own source) = _
      rw [ih]
      cases s.spec.collect s.schema written ds with
      | error e => rfl
      | ok rest => exact congrArg Except.ok (Step.applyAll_append own rest source).symm

end Search

/-- A call that overrides a field, if it does, only by configuring it. -/
def Call.ConfiguresOnly : Call σ → Prop
  | .withOverride _ _ => False
  | _ => True

namespace Search

/-- All overrides of a search have been configured. -/
def Configured (s : Search σ) : Prop :=
  ∃ written, s.overrides.Writes written ∧ Specification.OnePredicate written

lemma configured_start (source : σ) (schema : Schema) (spec : Specification)
    (applyAll paging : Bool) : (start source schema spec applyAll paging).Configured :=
  ⟨_,Overrides.writes_empty,fun _ _ h => by cases h⟩

lemma Configured.after {s : Search σ} (h : s.Configured) {call : Call σ}
    (hc : call.ConfiguresOnly) : (call.after s).Configured := by
  obtain ⟨written,hwrites,hone⟩ := h
  have keep : (call.overriding s.spec s.overrides) = s.overrides → (call.after s).Configured := by
    intro he
    exact ⟨written,by rwa [Call.overrides_after,he],hone⟩
  cases call with
  | withOverride field t => exact hc.elim
  | configure field choose =>
    cases hp : s.spec.chosen? field choose with
    | error e => exact keep (by simp only [Call.overriding,hp])
    | ok p? =>
      cases p? with
      | none => exact keep (by simp only [Call.overriding,hp])
      | some p =>
        refine ⟨Function.update written field (some [.filter p]),?_,?_⟩
        · rw [Call.overrides_after]
          simp only [Call.overriding,hp]
          exact hwrites.insert field [.filter p]
        · intro other steps h
          rw [Function.update_apply] at h
          split_ifs at h
          · cases h
            exact ⟨p,rfl⟩
          · exact hone other steps h
  | _ => exact keep rfl

lemma Configured.run {s t : Search σ} (h : s.Configured) {call : Call σ}
    (hc : call.ConfiguresOnly) (ht : call.run s = .ok t) : t.Configured := by
  obtain ⟨source,rfl⟩ := call.run_eq_ok ht
  exact h.after hc

/-- Calls that configure fields leave a configured search. -/
lemma Configured.runAll {s t : Search σ} (h : s.Configured) {calls : List (Call σ)}
    (hc : ∀ call ∈ calls, call.ConfiguresOnly) (ht : Call.runAll calls s = .ok t) :
    t.Configured := by
  apply foldlM_induction _ h ht
  intro call hmem s t hs ht
  exact hs.run (hc call hmem) ht

end Search
end RecordSearch

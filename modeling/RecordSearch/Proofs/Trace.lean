import RecordSearch.Proofs.Calls
import RecordSearch.Proofs.Queues

/-! Traces of runs. Whatever a run of calls does, it does at fields that its phases go through or in
its configuring calls, one after the other. What it does there depends on the calls and on what
waits, not on the source and not on how far the run gets, so runs can be compared event by event. -/
namespace RecordSearch
variable {σ : Type}

/-- Where a run can narrow or fail. -/
inductive Site
  | field (d : FieldDescriptor)
  | configuring (field : String)
  deriving DecidableEq

/-- What happens at a site: why the run fails there, or how it narrows. -/
structure Event (σ : Type) where
  site : Site
  effect : Except SearchError (Transform σ)

namespace Event

/-- The event with a transform in place of what happens at a filter field. -/
def replace (field : String) (t : Transform σ) (e : Event σ) : Event σ :=
  if e.site = .field ⟨field,.filter⟩ then { e with effect := .ok t } else e

end Event

/-- Replacing what happens by the same changes nothing. -/
lemma map_replace_of_same {field : String} {t : Transform σ} {es : List (Event σ)}
    (h : ∀ e ∈ es, e.site = .field ⟨field,.filter⟩ → e.effect = .ok t) :
    es.map (Event.replace field t) = es := by
  conv_rhs => rw [← List.map_id es]
  apply List.map_congr_left
  intro e he
  rw [Event.replace]
  split_ifs with hsite
  · rw [← h e he hsite,id]
  · rfl

/-- Lets events happen one after the other, as long as none fails. -/
def replay (events : List (Event σ)) (source : σ) : Except SearchError σ :=
  events.foldlM (fun source e => e.effect.map (· source)) source

lemma replay_cons (e : Event σ) (es : List (Event σ)) (source : σ) :
    replay (e::es) source = e.effect >>= fun t => replay es (t source) := by
  rw [replay,List.foldlM_cons]
  cases e.effect <;> rfl

lemma replay_append (xs ys : List (Event σ)) (source : σ) :
    replay (xs ++ ys) source = replay xs source >>= replay ys := List.foldlM_append

/-- Events that all happen have not failed. -/
lemma effect_of_replay_eq_ok {es : List (Event σ)} {source out : σ}
    (h : replay es source = .ok out) : ∀ e ∈ es, ∃ t, e.effect = .ok t := by
  induction es generalizing source with
  | nil => simp
  | cons e es ih =>
    rw [replay_cons] at h
    cases he : e.effect with
    | error err => rw [he] at h; cases h
    | ok t =>
      rw [he] at h
      intro e' hmem
      rcases List.mem_cons.1 hmem with rfl | hmem
      · exact ⟨t,he⟩
      · exact ih h e' hmem

namespace Overrides

/-- One field's transform is replaced or added, and no other field's. -/
structure Replaces (o o' : Overrides σ) (field : String) (t : Transform σ) : Prop where
  here : o'.find? field = some t
  elsewhere : ∀ other, other ≠ field → o'.find? other = o.find? other

lemma replaces_insert (o : Overrides σ) (field : String) (t : Transform σ) :
    o.Replaces (o.insert field t) field t := by
  constructor
  · rw [find?_insert,if_pos rfl]
  · intro other h
    rw [find?_insert,if_neg h.symm]

/-- Overriding a field on both sides keeps a replacement elsewhere. -/
lemma Replaces.insert {o o' : Overrides σ} {field : String} {t : Transform σ}
    (h : o.Replaces o' field t) {other : String} (hne : other ≠ field) (u : Transform σ) :
    (o.insert other u).Replaces (o'.insert other u) field t := by
  constructor
  · rw [find?_insert,if_neg hne,h.here]
  · intro third hthird
    rw [find?_insert,find?_insert,h.elsewhere third hthird]

end Overrides

variable [Source σ]

namespace Call

/-- The field that a call overrides, if it overrides any. -/
def overridden? : Call σ → Option String
  | withOverride field _ | configure field _ => some field
  | _ => none

/-- The overrides that a call leaves, should it not fail. -/
def overriding (spec : Specification) : Call σ → Overrides σ → Overrides σ
  | withOverride field t, o => o.insert field t
  | configure field choose, o =>
    match spec.chosen? field choose with
    | .ok (some p) => o.insert field (Source.filterBy p)
    | _ => o
  | _, o => o

lemma find?_overriding {call : Call σ} {field : String} (h : call.overridden? ≠ some field)
    (spec : Specification) (o : Overrides σ) :
    (call.overriding spec o).find? field = o.find? field := by
  cases call with
  | withOverride other t =>
    have hne : other ≠ field := by simpa [overridden?] using h
    rw [overriding,Overrides.find?_insert,if_neg hne]
  | configure other choose =>
    have hne : other ≠ field := by simpa [overridden?] using h
    rw [overriding]
    split
    · rw [Overrides.find?_insert,if_neg hne]
    · rfl
  | _ => rfl

lemma replaces_overriding {call : Call σ} {field : String} (h : call.overridden? ≠ some field)
    {t : Transform σ} (spec : Specification) {o o' : Overrides σ} (ho : o.Replaces o' field t) :
    (call.overriding spec o).Replaces (call.overriding spec o') field t := by
  cases call with
  | withOverride other u => exact ho.insert (by simpa [overridden?] using h) u
  | configure other choose =>
    simp only [overriding]
    split
    · exact ho.insert (by simpa [overridden?] using h) _
    · exact ho
  | _ => exact ho

/-- The search that a call leaves, but for the source, and should it not fail. -/
def after (call : Call σ) (s : Search σ) : Search σ :=
  match call.phases?, call with
  | some p, _ => s.drained p s.source
  | none, allowAllProperties => s.allowAllProperties
  | none, withPaging => s.withPaging
  | none, _ => { s with overrides := call.overriding s.spec s.overrides }

section
variable (call : Call σ) (s : Search σ)

lemma after_of_phases? {call : Call σ} {p : Phases} (h : call.phases? = some p) (s : Search σ) :
    call.after s = s.drained p s.source := by simp only [after,h]

@[simp] lemma spec_after : (call.after s).spec = s.spec := by cases call <;> rfl

@[simp] lemma schema_after : (call.after s).schema = s.schema := by cases call <;> rfl

@[simp] lemma overrides_after :
    (call.after s).overrides = call.overriding s.spec s.overrides := by cases call <;> rfl

/-- What a call does next depends on no override. -/
lemma after_overrides (o : Overrides σ) : call.after { s with overrides := o } =
    { call.after s with overrides := call.overriding s.spec o } := by cases call <;> rfl

/-- No call adds to what waits. -/
lemma queues_after :
    (call.after s).filters.Sublist s.filters ∧ (call.after s).plain.Sublist s.plain := by
  cases call using phaseCases with
  | phases call p hp =>
    rw [after_of_phases? hp,Search.drained]
    constructor
    · split_ifs <;> simp
    · split_ifs <;> simp
  | _ => exact ⟨List.Sublist.refl _,List.Sublist.refl _⟩

end
end Call

namespace Search

/-- What happens at a field that a phase goes through. -/
def event (s : Search σ) (d : FieldDescriptor) : Event σ := ⟨.field d,s.transform d⟩

lemma replay_map_event (s : Search σ) (ds : List FieldDescriptor) (source : σ) :
    replay (ds.map s.event) source = s.narrow ds source := List.foldlM_map

end Search

/-- What a call does. -/
def Call.events (call : Call σ) (s : Search σ) : List (Event σ) :=
  match call.phases?, call with
  | some p, _ => (s.waiting p).map s.event
  | none, configure field choose =>
    [⟨.configuring field,(s.spec.chosen? field choose).map fun _ => id⟩]
  | none, _ => []

lemma Call.events_of_phases? {call : Call σ} {p : Phases} (h : call.phases? = some p)
    (s : Search σ) : call.events s = (s.waiting p).map s.event := by simp only [events,h]

/-- A call lets its events happen to the source, and else does what it does to any source. -/
lemma Call.run_eq (call : Call σ) (s : Search σ) (source : σ) :
    call.run { s with source } =
      (replay (call.events s) source).map fun source => { call.after s with source } := by
  cases call using phaseCases with
  | phases call p hp =>
    rw [run_of_phases? hp,events_of_phases? hp,after_of_phases? hp,Search.replay_map_event]
    rfl
  | allowAllProperties => rfl
  | withPaging => rfl
  | withOverride field t => rfl
  | configure field choose =>
    change Search.configure _ _ _ = (replay [_] source).map _
    rw [Search.configure_eq,replay_cons]
    simp only [after,phases?,overriding]
    rcases s.spec.chosen? field choose with e | _ | p <;> rfl

lemma Call.run_eq_ok (call : Call σ) {s t : Search σ} (h : call.run s = .ok t) :
    ∃ source, t = { call.after s with source } := by
  have heq := call.run_eq s s.source
  rw [show ({ s with source := s.source } : Search σ) = s from rfl,h,eq_comm,map_eq_ok_iff] at heq
  obtain ⟨source,-,rfl⟩ := heq
  exact ⟨source,rfl⟩

namespace Search

/-- What happens in a run of calls and in finishing the search after it. -/
def trace (calls : List (Call σ)) (s : Search σ) : List (Event σ) :=
  match calls with
  | [] => s.pending.map s.event
  | call::calls => call.events s ++ trace calls (call.after s)

/-- What comes of a search after a run of calls. -/
def outcome (calls : List (Call σ)) (s : Search σ) : Except SearchError σ :=
  Call.runAll calls s >>= finish

lemma outcome_cons (call : Call σ) (calls : List (Call σ)) (s : Search σ) :
    outcome (call::calls) s = call.run s >>= outcome calls := by
  rw [outcome,Call.runAll,List.foldlM_cons]
  cases call.run s <;> rfl

/-- What comes of a run is what its trace makes of the source. -/
theorem outcome_eq_replay (calls : List (Call σ)) (s : Search σ) (source : σ) :
    outcome calls { s with source } = replay (trace calls s) source := by
  induction calls generalizing s source with
  | nil =>
    change finish _ = _
    rw [finish_eq_narrow,trace,replay_map_event]
    rfl
  | cons call calls ih =>
    rw [outcome_cons,call.run_eq,trace,replay_append]
    cases replay (call.events s) source with
    | error e => rfl
    | ok source => exact ih (call.after s) source

section
variable {s : Search σ} {field : String}

lemma site_events (s : Search σ) (ds : List FieldDescriptor) :
    (ds.map s.event).map Event.site = ds.map .field := by
  rw [List.map_map]
  rfl

lemma count_site_event (s : Search σ) (ds : List FieldDescriptor) (d : FieldDescriptor) :
    ((ds.map s.event).map Event.site).count (.field d) = ds.count d := by
  rw [site_events]
  exact List.count_map_of_injective _ _ (fun a b h => Site.field.inj h) _

/-- A run goes through a filter field exactly as often as it waits. -/
lemma count_trace (calls : List (Call σ)) (s : Search σ) (field : String) :
    ((trace calls s).map Event.site).count (.field ⟨field,.filter⟩) = s.filters.count field := by
  induction calls generalizing s with
  | nil =>
    rw [trace,count_site_event,pending,count_waiting]
    cases s.paging <;> rfl
  | cons call calls ih =>
    rw [trace,List.map_append,List.count_append,ih]
    cases call using Call.phaseCases with
    | phases call p hp =>
      rw [Call.events_of_phases? hp,Call.after_of_phases? hp,count_site_event,count_waiting]
      change (if p.filters then s.filters.count field else 0) +
        (if p.filters then [] else s.filters).count field = _
      cases p.filters <;> simp
    | allowAllProperties => simp [Call.events,Call.after,Call.phases?,allowAllProperties]
    | withPaging => simp [Call.events,Call.after,Call.phases?,withPaging]
    | withOverride other t => simp [Call.events,Call.after,Call.phases?]
    | configure other choose => simp [Call.events,Call.after,Call.phases?]

/-- Another override for a filter field changes what happens there, and at no other field. -/
lemma event_overrides {o : Overrides σ} {t : Transform σ} (ho : s.overrides.Replaces o field t)
    {d : FieldDescriptor} (hd : d ≠ ⟨field,.plain⟩) :
    ({ s with overrides := o } : Search σ).event d = (s.event d).replace field t := by
  by_cases h : d = ⟨field,.filter⟩
  · subst h
    simp [event,Event.replace,transform,override?,ho.here]
  · have hsite : (s.event d).site ≠ .field ⟨field,.filter⟩ := fun he => h (Site.field.inj he)
    rw [Event.replace,if_neg hsite]
    have hsame : ({ s with overrides := o } : Search σ).override? d = s.override? d := by
      obtain ⟨name,role⟩ := d
      cases role with
      | filter => exact ho.elsewhere name fun he => h (by rw [he])
      | plain => exact ho.elsewhere name fun he => hd (by rw [he])
      | skip => rfl
      | take => rfl
    simp only [event,transform,hsame]

lemma events_overrides {o : Overrides σ} {t : Transform σ} (ho : s.overrides.Replaces o field t)
    (hplain : field ∉ s.plain) (p : Phases) :
    (s.waiting p).map ({ s with overrides := o } : Search σ).event =
      ((s.waiting p).map s.event).map (Event.replace field t) := by
  rw [List.map_map]
  apply List.map_congr_left
  intro d hd
  apply event_overrides ho
  rintro rfl
  exact hplain (mem_waiting.1 hd).2

/-- Another override for a filter field changes a run at that field only, as long as the run does
not override the field itself. -/
theorem trace_overrides {o : Overrides σ} {t : Transform σ} {calls : List (Call σ)}
    (hcalls : ∀ call ∈ calls, call.overridden? ≠ some field)
    (ho : s.overrides.Replaces o field t) (hplain : field ∉ s.plain) :
    trace calls { s with overrides := o } = (trace calls s).map (Event.replace field t) := by
  induction calls generalizing s o with
  | nil => exact events_overrides ho hplain _
  | cons call calls ih =>
    have hevents : call.events { s with overrides := o } =
        (call.events s).map (Event.replace field t) := by
      cases call using Call.phaseCases with
      | phases call p hp =>
        rw [Call.events_of_phases? hp,Call.events_of_phases? hp]
        exact events_overrides ho hplain p
      | allowAllProperties => rfl
      | withPaging => rfl
      | withOverride other t => rfl
      | configure other choose => simp [Call.events,Call.phases?,Event.replace]
    have hafter : (call.after s).overrides.Replaces (call.overriding s.spec o) field t := by
      rw [Call.overrides_after]
      exact Call.replaces_overriding (hcalls call (by simp)) s.spec ho
    have htrace := ih (fun c hc => hcalls c (by simp [hc])) hafter
      fun h => hplain ((call.queues_after s).2.subset h)
    rw [trace,trace,hevents,call.after_overrides,htrace,List.map_append]

/-- What happens at a filter field is settled before a run that does not override the field. -/
lemma effect_of_mem_trace {calls : List (Call σ)}
    (hcalls : ∀ call ∈ calls, call.overridden? ≠ some field) {e : Event σ}
    (he : e ∈ trace calls s) (hsite : e.site = .field ⟨field,.filter⟩) :
    e.effect = s.transform ⟨field,.filter⟩ := by
  induction calls generalizing s with
  | nil =>
    obtain ⟨d,-,rfl⟩ := List.mem_map.1 he
    cases hsite
    rfl
  | cons call calls ih =>
    rcases List.mem_append.1 he with he | he
    · cases call using Call.phaseCases with
      | phases call p hp =>
        rw [Call.events_of_phases? hp] at he
        obtain ⟨d,-,rfl⟩ := List.mem_map.1 he
        cases hsite
        rfl
      | allowAllProperties => cases he
      | withPaging => cases he
      | withOverride other t => cases he
      | configure other choose =>
        rw [List.mem_singleton.1 he] at hsite
        cases hsite
    · rw [ih (fun c hc => hcalls c (by simp [hc])) he]
      have hfind := Call.find?_overriding (hcalls call (by simp)) s.spec s.overrides
      simp only [transform,override?,Call.overrides_after,hfind,Call.spec_after,Call.schema_after]

end
end Search
end RecordSearch

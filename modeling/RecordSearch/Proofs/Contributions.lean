import Mathlib.Data.List.Basic
import RecordSearch.Proofs.Outcome
import RecordSearch.Proofs.Writing

/-! Which field a step of a plan comes from. A run writes to a plan where its phases go through
fields, so each step that it writes is the contribution of a field. Phases empty whole queues, and
go through paging fields only after all predicates; so no field contributes twice, and no predicate
comes after paging, whatever is switched on in between. -/
namespace RecordSearch

/-- What an event at a field writes to a plan, each step with the field. -/
def Event.contributions (e : Event Plan) : List (FieldDescriptor × Step) :=
  match e.site,e.effect with
  | .field d,.ok t => (t .empty).steps.map (d,·)
  | _,_ => []

/-- What a call writes, should it not fail. -/
def Call.contributions (call : Call Plan) (s : Search Plan) : List (FieldDescriptor × Step) :=
  (call.events s).flatMap Event.contributions

/-- What a run of calls writes, each step with its field. -/
def Search.contributions : List (Call Plan) → Search Plan → List (FieldDescriptor × Step)
  | [],_ => []
  | call::calls,s =>
    call.contributions s ++
      match call.run s with
      | .ok t => contributions calls t
      | .error _ => []

/-- Steps that fields give, each with its field. -/
def signed (give : FieldDescriptor → List Step) (ds : List FieldDescriptor) :
    List (FieldDescriptor × Step) :=
  ds.flatMap fun d => (give d).map (d,·)

section
variable {give : FieldDescriptor → List Step}

lemma map_snd_signed (ds : List FieldDescriptor) :
    (signed give ds).map Prod.snd = ds.flatMap give := by
  simp [signed,List.map_flatMap,Function.comp_def]

/-- Fields that give one step at most sign in their order, no more often than they come. -/
lemma signed_sublist (hgive : ∀ d, (give d).length ≤ 1) (ds : List FieldDescriptor) :
    ((signed give ds).map Prod.fst).Sublist ds := by
  induction ds with
  | nil => exact .slnil
  | cons d ds ih =>
    rw [signed,List.flatMap_cons,List.map_append,← signed]
    match give d,hgive d with
    | [],_ => exact ih.cons d
    | [step],_ => exact ih.cons_cons d

end

namespace Call
variable {σ : Type} {call : Call σ} {p : Phases}

/-- A call that pages runs both predicate phases before. -/
lemma predicates_or_no_paging (h : call.phases? = some p) :
    p.filters = true ∧ p.plain = true ∨ p.skips = false ∧ p.takes = false := by
  cases call with
  | applyFilters | applyPlainFields => cases h; exact .inr ⟨rfl,rfl⟩
  | applySkip | applyTake | applyPaging => cases h; exact .inl ⟨rfl,rfl⟩
  | _ => cases h

lemma empties_predicates (h : call.phases? = some p) {role : Role} (hrole : role.rank ≠ 0)
    (hp : p.empties role) {other : Role} (hother : other.rank = 0) : p.empties other := by
  obtain ⟨hfilters,hplain⟩ | ⟨hskips,htakes⟩ := predicates_or_no_paging h
  · cases other with
    | filter => exact hfilters
    | plain => exact hplain
    | _ => cases hother
  · cases role with
    | skip => exact absurd (hskips.symm.trans hp) Bool.false_ne_true
    | take => exact absurd (htakes.symm.trans hp) Bool.false_ne_true
    | _ => exact absurd rfl hrole

end Call

/-- A field waits at the start as often as it is declared. -/
lemma Specification.count_named (spec : Specification) (d : FieldDescriptor) :
    (spec.named d.role).count d.name = spec.fields.count d := by
  have hinj : Function.Injective (FieldDescriptor.mk · d.role) := fun a b h =>
    (FieldDescriptor.mk.inj h).1
  rw [← List.count_map_of_injective _ _ hinj,map_named,ofRole]
  exact List.count_filter (beq_self_eq_true d.role)

namespace Search

/-- How contributions go with a search that has come about by them: its queues are as declared or
empty, a field has contributed no more often than it has ceased to wait, and no predicate waits once
a paging field has contributed. -/
structure Orderly (spec : Specification) (made : List (FieldDescriptor × Step)) (s : Search Plan) :
    Prop where
  written : s.source.steps = made.map Prod.snd
  rank : ∀ c ∈ made, c.2.rank = c.1.role.rank
  whole : ∀ role, s.queue role = spec.named role ∨ s.queue role = []
  once : ∀ d, (made.map Prod.fst).count d + (s.queue d.role).count d.name ≤ spec.fields.count d
  emptied : ∀ d ∈ made.map Prod.fst, s.queue d.role = []
  closed : ∀ d ∈ made.map Prod.fst, d.role.rank ≠ 0 → ∀ role, role.rank = 0 → s.queue role = []
  sorted : (made.map Prod.fst).Pairwise fun a b => b.role.rank = 0 → a.role.rank = 0

variable {spec : Specification} {made : List (FieldDescriptor × Step)} {s t : Search Plan}

lemma orderly_start (schema : Schema) (spec : Specification) (applyAll paging : Bool) :
    (start .empty schema spec applyAll paging).Orderly spec [] where
  written := rfl
  rank := by simp
  whole role := .inl (queue_start _ _ _ _ _ role)
  once d := Nat.le_of_eq (by
    rw [queue_start,spec.count_named,List.map_nil,List.count_nil,Nat.zero_add])
  emptied := by simp
  closed := by simp
  sorted := .nil

namespace Orderly

/-- Nothing but the source and the queues matters. -/
lemma of_eq (h : s.Orderly spec made) (hsource : t.source = s.source)
    (hqueue : ∀ role, t.queue role = s.queue role) : t.Orderly spec made where
  written := hsource ▸ h.written
  rank := h.rank
  whole role := hqueue role ▸ h.whole role
  once d := hqueue d.role ▸ h.once d
  emptied d hd := hqueue d.role ▸ h.emptied d hd
  closed d hd hrank role hrole := hqueue role ▸ h.closed d hd hrank role hrole
  sorted := h.sorted

/-- Phases that go through fields which give one step at most, each in its place. -/
lemma drained (h : s.Orderly spec made) {call : Call Plan} {p : Phases}
    (hp : call.phases? = some p) {give : FieldDescriptor → List Step}
    (hgive : ∀ d, (give d).length ≤ 1 ∧ ∀ step ∈ give d, step.rank = d.role.rank) :
    (s.drained p ⟨s.source.steps ++ (s.waiting p).flatMap give⟩).Orderly spec
      (made ++ signed give (s.waiting p)) := by
  have hsub := signed_sublist (fun d => (hgive d).1) (s.waiting p)
  have hempties : ∀ d ∈ (signed give (s.waiting p)).map Prod.fst, p.empties d.role :=
    fun d hd => empties_of_visits (mem_waiting.1 (hsub.subset hd)).1
  constructor
  case written =>
    rw [List.map_append,map_snd_signed,← h.written]
    rfl
  case rank =>
    intro c hc
    rcases List.mem_append.1 hc with hc | hc
    · exact h.rank c hc
    · obtain ⟨d,-,hc⟩ := List.mem_flatMap.1 hc
      obtain ⟨step,hstep,rfl⟩ := List.mem_map.1 hc
      exact (hgive d).2 step hstep
  case whole =>
    intro role
    rw [queue_drained]
    split_ifs
    · exact .inr rfl
    · exact h.whole role
  case once =>
    intro d
    have hcount := hsub.count_le d
    have hbefore := h.once d
    have hafter := s.count_waiting_add_drained p ⟨s.source.steps ++ (s.waiting p).flatMap give⟩ d
    rw [List.map_append,List.count_append]
    omega
  case emptied =>
    intro d hd
    rw [List.map_append,List.mem_append] at hd
    exact queue_drained_eq_nil (hd.symm.imp (hempties d) (h.emptied d)) _
  case closed =>
    intro d hd hrank role hrole
    rw [List.map_append,List.mem_append] at hd
    refine queue_drained_eq_nil (hd.symm.imp (fun hd => ?_) fun hd => ?_) _
    · exact Call.empties_predicates hp hrank (hempties d hd) hrole
    · exact h.closed d hd hrank role hrole
  case sorted =>
    rw [List.map_append,List.pairwise_append]
    refine ⟨h.sorted,?_,?_⟩
    · apply (s.pairwise_waiting p).sublist hsub |>.imp
      intro a b hab hb
      exact Nat.le_zero.1 (hb ▸ hab)
    · intro a ha b hb hrank
      -- No predicate is gone through any more once a paging field has contributed.
      by_contra hne
      have hmem := (mem_waiting.1 (hsub.subset hb)).2
      rw [h.closed a ha hne b.role hrank] at hmem
      cases hmem

end Orderly

/-- What the events of phases contribute is what their fields give. -/
lemma contributions_of_phases {call : Call Plan} {p : Phases} (hs : s.Configured)
    (hp : call.phases? = some p) (ht : call.run s = .ok t) :
    ∃ give : FieldDescriptor → List Step,
      (∀ d, (give d).length ≤ 1 ∧ ∀ step ∈ give d, step.rank = d.role.rank) ∧
      call.contributions s = signed give (s.waiting p) ∧
      t = s.drained p ⟨s.source.steps ++ (s.waiting p).flatMap give⟩ := by
  obtain ⟨written,hwrites,hone⟩ := hs
  rw [Call.run_of_phases? hp,drain,map_eq_ok_iff] at ht
  obtain ⟨plan,hplan,rfl⟩ := ht
  rw [narrow_of_writes hwrites,map_eq_ok_iff] at hplan
  obtain ⟨steps,hsteps,rfl⟩ := hplan
  obtain ⟨hall,rfl⟩ := (Specification.collect_eq_ok_iff _ _ _ _ _).1 hsteps
  refine ⟨s.spec.given s.schema written,Specification.rank_of_given hone,?_,?_⟩
  · rw [Call.contributions,Call.events_of_phases? hp,List.flatMap_map,signed]
    apply List.flatMap_congr
    intro d hd
    simp [event,transform_of_writes hwrites,hall d hd,Event.contributions,Except.map,
      Step.applyAll_plan,Plan.empty]
  · rw [Step.applyAll_plan]

/-- A call keeps contributions in order. -/
lemma Orderly.run (h : s.Orderly spec made) (hs : s.Configured) {call : Call Plan}
    (hc : call.ConfiguresOnly) (ht : call.run s = .ok t) :
    t.Orderly spec (made ++ call.contributions s) := by
  cases call using Call.phaseCases with
  | phases call p hp =>
    obtain ⟨give,hgive,hmade,rfl⟩ := contributions_of_phases hs hp ht
    rw [hmade]
    exact h.drained hp hgive
  | allowAllProperties | withPaging =>
    cases ht
    exact (List.append_nil made).symm ▸ h.of_eq rfl fun role => rfl
  | withOverride field t => exact hc.elim
  | configure field choose =>
    change s.configure field choose = _ at ht
    rw [configure_eq,map_eq_ok_iff] at ht
    obtain ⟨p?,hp?,rfl⟩ := ht
    have hmade : (Call.configure field choose).contributions s = [] := rfl
    rw [hmade,List.append_nil]
    cases p? with
    | none => exact h
    | some p => exact h.of_eq rfl fun role => rfl

/-- A run keeps contributions in order. -/
lemma Orderly.runAll (h : s.Orderly spec made) (hs : s.Configured) {calls : List (Call Plan)}
    (hc : ∀ call ∈ calls, call.ConfiguresOnly) (ht : Call.runAll calls s = .ok t) :
    t.Orderly spec (made ++ contributions calls s) := by
  induction calls generalizing s made with
  | nil =>
    cases ht
    rwa [contributions,List.append_nil]
  | cons call calls ih =>
    obtain ⟨u,hu,ht⟩ := Call.runAll_cons_eq_ok_iff.1 ht
    have hcall := hc call (by simp)
    rw [contributions,hu,← List.append_assoc]
    exact ih (h.run hs hcall hu) (hs.run hcall hu) (fun c hmem => hc c (by simp [hmem])) ht

/-- Fields contribute in order, wherever a run that starts with an empty plan and overrides fields
only by configuring them has got to. The queue of each role is as declared or empty. The steps of
the plan are contributions of fields: none of a field that still waits, and of any field as many at
most as there are declarations of it. No predicate comes after a skip or a take. -/
theorem contributions_in_order {schema : Schema} {spec : Specification} {applyAll paging : Bool}
    {calls : List (Call Plan)} {s : Search Plan}
    (configured : ∀ call ∈ calls, call.ConfiguresOnly)
    (reached : Call.runAll calls (start .empty schema spec applyAll paging) = .ok s) :
    let made := contributions calls (start .empty schema spec applyAll paging)
    (∀ role, s.queue role = spec.named role ∨ s.queue role = []) ∧
    s.source.steps = made.map Prod.snd ∧
    (∀ role, ∀ field ∈ s.queue role, ⟨field,role⟩ ∉ made.map Prod.fst) ∧
    (∀ d, (made.map Prod.fst).count d ≤ spec.fields.count d) ∧
    s.source.steps.Pairwise fun a b => (∃ p, b = .filter p) → ∃ p, a = .filter p := by
  intro made
  have h : s.Orderly spec made := (orderly_start schema spec applyAll paging).runAll
    (configured_start .empty schema spec applyAll paging) configured reached
  refine ⟨h.whole,h.written,?_,?_,?_⟩
  · intro role field hmem hmade
    rw [h.emptied _ hmade] at hmem
    cases hmem
  · intro d
    have := h.once d
    omega
  · rw [h.written,List.pairwise_map]
    refine (List.pairwise_map.1 h.sorted).imp_of_mem ?_
    intro a b ha hb hab
    rw [← Step.rank_eq_zero_iff,← Step.rank_eq_zero_iff,h.rank a ha,h.rank b hb]
    exact hab

theorem contributions_in_order_rooms :
    let calls := [.applyPlainFields,Rooms.mapOn,.withPaging,.applyTake,.allowAllProperties,
      .applyPaging]
    let isLit := Predicate.compare "lit" .eq (.bool true)
    ∃ s, Call.runAll calls Rooms.pagedPlan = .ok s ∧
      contributions calls Rooms.pagedPlan =
        [(⟨"on",.filter⟩,.filter Rooms.heatedOrLit),(⟨"lit",.filter⟩,.filter isLit),
          (⟨"limit",.take⟩,.take 1),(⟨"offset",.skip⟩,.skip 1)] ∧
      s.source.steps = [.filter Rooms.heatedOrLit,.filter isLit,.take 1,.skip 1] := by
  intro calls isLit
  have configured : ∀ call ∈ calls, call.ConfiguresOnly := by
    simp [calls,Rooms.mapOn,Call.ConfiguresOnly]
  obtain ⟨s,reached⟩ : ∃ s, Call.runAll calls Rooms.pagedPlan = .ok s := ⟨_,rfl⟩
  obtain ⟨-,hsteps,-⟩ := contributions_in_order configured reached
  exact ⟨s,reached,rfl,hsteps⟩

end Search
end RecordSearch

import Mathlib.Data.List.Basic
import RecordSearch.Proofs.Outcome
import RecordSearch.Proofs.Writing

/-! The order of paging. A run goes through skips and through takes once each, in the order of the
calls that first ask for them. So skips come first, unless taking is called for on its own before
any skipping is: what is skipped later is then skipped among the records taken. -/
namespace RecordSearch

/-- The paging roles that phases go through, in order. -/
def Phases.paging (p : Phases) : List Role := [Role.skip,.take].filter p.empties

/-- The paging roles that a call goes through, in order. -/
def Call.paging {σ : Type} (call : Call σ) : List Role := call.phases?.elim [] Phases.paging

lemma Phases.mem_paging {p : Phases} {role : Role} (h : role.rank ≠ 0) :
    role ∈ p.paging ↔ p.empties role := by
  cases role with
  | filter | plain => exact absurd rfl h
  | skip | take => simp [paging]

lemma Call.eq_of_mem_paging {σ : Type} {call : Call σ} {role : Role} (h : role ∈ call.paging) :
    role = .skip ∨ role = .take := by
  rw [paging] at h
  cases hp : call.phases? with
  | none => rw [hp] at h; cases h
  | some p =>
    rw [hp] at h
    simpa using List.filter_sublist.subset h

/-- Each paging role comes once among phases, and skips before takes. -/
lemma Phases.flatMap_paging_removeAll {α : Type} (p : Phases) (roles : List Role)
    (f : Role → List α) : (p.paging.removeAll roles).eraseDups.flatMap f =
      (if p.empties .skip ∧ .skip ∉ roles then f .skip else []) ++
        if p.empties .take ∧ .take ∉ roles then f .take else [] := by
  by_cases hs : p.empties .skip <;> by_cases ht : p.empties .take <;>
    by_cases hs' : Role.skip ∈ roles <;> by_cases ht' : Role.take ∈ roles <;>
    simp [paging,List.removeAll,hs,ht,hs',ht',List.eraseDups_cons]

/-- Whether a step pages. -/
def Step.pages (step : Step) : Bool := step.rank != 0

lemma Step.filter_pages_flatMap {give : FieldDescriptor → List Step}
    (hgive : ∀ d, ∀ step ∈ give d, step.rank = d.role.rank) (ds : List FieldDescriptor) :
    (ds.flatMap give).filter Step.pages = (ds.filter (·.role.rank != 0)).flatMap give := by
  induction ds with
  | nil => rfl
  | cons d ds ih =>
    rw [List.flatMap_cons,List.filter_append,ih,List.filter_cons]
    have hpages : ∀ step ∈ give d, step.pages = (d.role.rank != 0) := by
      intro step hstep
      rw [Step.pages,hgive d step hstep]
    split_ifs with h
    · rw [List.flatMap_cons,List.filter_eq_self.2 fun step hstep => (hpages step hstep).trans h]
    · rw [List.filter_eq_nil_iff.2 fun step hstep => (hpages step hstep).trans_ne h]
      rfl

/-- Skips all come before takes where they are written first. -/
lemma Step.not_sublist_skips_takes (skips takes : List Nat) (n m : Nat) :
    ¬ [take n,skip m].Sublist (skips.map skip ++ takes.map take) := by
  intro hsub
  have hsorted : (skips.map skip ++ takes.map take).Pairwise fun a b => a.rank ≤ b.rank := by
    simp [List.pairwise_append,List.pairwise_map,List.pairwise_of_forall,rank]
  simpa [rank] using hsorted.sublist hsub

/-- A skip comes after a take where takes are written first and there are both. -/
lemma Step.sublist_takes_skips_iff (takes skips : List Nat) :
    (∃ n m, [take n,skip m].Sublist (takes.map take ++ skips.map skip)) ↔
      takes ≠ [] ∧ skips ≠ [] := by
  constructor
  · rintro ⟨n,m,hsub⟩
    have hn : n ∈ takes := by simpa using hsub.subset (List.mem_cons_self ..)
    have hm : m ∈ skips := by
      simpa using hsub.subset (List.mem_cons_of_mem _ (List.mem_singleton_self _))
    exact ⟨List.ne_nil_of_mem hn,List.ne_nil_of_mem hm⟩
  · rintro ⟨htakes,hskips⟩
    obtain ⟨n,hn⟩ := List.exists_mem_of_ne_nil takes htakes
    obtain ⟨m,hm⟩ := List.exists_mem_of_ne_nil skips hskips
    have hfront : [take n].Sublist (takes.map take) :=
      List.singleton_sublist.2 (List.mem_map_of_mem hn)
    have hback : [skip m].Sublist (skips.map skip) :=
      List.singleton_sublist.2 (List.mem_map_of_mem hm)
    exact ⟨n,m,hfront.append hback⟩

/-- The order in which two values first come. -/
lemma eraseDups_cons_of_two {α : Type} [DecidableEq α] {a b : α} {xs : List α} (hab : a ≠ b)
    (h : ∀ x ∈ a::xs, x = a ∨ x = b) :
    (a::xs).eraseDups = a::if b ∈ xs then [b] else [] := by
  have hother : ∀ x ∈ xs.filter (fun x => !x == a), x = b := by
    intro x hx
    obtain ⟨hmem,hne⟩ := List.mem_filter.1 hx
    exact (h x (by simp [hmem])).resolve_left (by simpa using hne)
  have hmem : b ∈ xs.filter (fun x => !x == a) ↔ b ∈ xs := by simp [hab.symm]
  rw [List.eraseDups_cons]
  congr 1
  rw [← if_congr hmem rfl rfl]
  match xs.filter (fun x => !x == a),hother with
  | [],_ => rfl
  | y::ys,hother =>
    obtain rfl := hother y (by simp)
    have hrest : ys.filter (fun x => !x == y) = [] :=
      List.filter_eq_nil_iff.2 fun x hx => by simp [hother x (by simp [hx])]
    rw [List.eraseDups_cons,hrest]
    simp

namespace Specification
variable (spec : Specification)

/-- The steps of the fields in a role, in order. -/
def stepsOf (role : Role) : List Step := (spec.ofRole role).filterMap spec.asked?

/-- Nothing that is written for a paging field keeps it from asking for its own step. -/
lemma eq_asked?_of_asks {schema : Schema} {written : String → Option (List Step)}
    {d : FieldDescriptor} {steps : List Step} (hrank : d.role.rank ≠ 0)
    (h : spec.asks schema written d = .ok steps) : steps = (spec.asked? d).toList := by
  obtain ⟨_,-,hzero,-⟩ | hasks := spec.asks_cases schema written d
  · exact absurd hzero hrank
  · rw [hasks,map_eq_ok_iff] at h
    obtain ⟨step?,hstep,rfl⟩ := h
    rw [spec.step?_eq_ok schema d hstep]

/-- Takes come first where the roles are gone through in this order, and both write something. -/
def TakesFirst (roles : List Role) : Prop :=
  roles.head? = some .take ∧ .skip ∈ roles ∧ spec.counts .take ≠ [] ∧ spec.counts .skip ≠ []

end Specification

/-- Some skip comes after some take. -/
def Plan.SkipsAfterTaking (plan : Plan) : Prop :=
  ∃ n m, [Step.take n,.skip m].Sublist plan.steps

namespace Search

/-- What pages in a search that has gone through paging roles: all steps of a role where it first
comes. The roles that have not come still wait. -/
structure Paged (spec : Specification) (roles : List Role) (s : Search Plan) : Prop where
  spec_eq : s.spec = spec
  queue : ∀ role, role.rank ≠ 0 → s.queue role = if role ∈ roles then [] else spec.named role
  steps : s.source.steps.filter Step.pages = roles.eraseDups.flatMap spec.stepsOf

lemma paged_start (schema : Schema) (spec : Specification) (applyAll paging : Bool) :
    (start .empty schema spec applyAll paging).Paged spec [] where
  spec_eq := rfl
  queue role _ := queue_start _ _ _ _ _ role
  steps := rfl

/-- The paging fields among those that phases go through. -/
lemma filter_waiting (s : Search Plan) (p : Phases) :
    (s.waiting p).filter (·.role.rank != 0) = s.visited p .skip ++ s.visited p .take := by
  have hvisited : ∀ role, (s.visited p role).filter (·.role.rank != 0) =
      if role.rank = 0 then [] else s.visited p role := by
    intro role
    split_ifs with h
    · exact List.filter_eq_nil_iff.2 fun d hd => by simp [(mem_visited.1 hd).1,h]
    · exact List.filter_eq_self.2 fun d hd => by simp [(mem_visited.1 hd).1,h]
  rw [waiting_eq_flatMap,List.filter_flatMap,funext hvisited]
  simp [Role.inOrder,Role.rank]

variable {spec : Specification} {roles : List Role} {s t : Search Plan}

/-- Phases go through all fields in a paging role where it first comes, and through none after
that. -/
lemma Paged.visited (h : s.Paged spec roles) (p : Phases) {role : Role} (hrank : role.rank ≠ 0) :
    s.visited p role = if p.empties role ∧ role ∉ roles then spec.ofRole role else [] := by
  have hvisits : s.visits p role = p.empties role := by
    cases role with
    | plain => exact absurd rfl hrank
    | _ => rfl
  rw [Search.visited,hvisits,h.queue role hrank]
  by_cases hp : p.empties role <;> by_cases hr : role ∈ roles <;>
    simp [hp,hr,Specification.map_named]

/-- Phases page by the roles that have not come before. -/
lemma Paged.drain (h : s.Paged spec roles) (hs : s.Configured) {p : Phases}
    (ht : s.drain p = .ok t) : t.Paged spec (roles ++ p.paging) := by
  obtain ⟨written,hwrites,hone⟩ := hs
  rw [Search.drain,map_eq_ok_iff] at ht
  obtain ⟨plan,hplan,rfl⟩ := ht
  rw [narrow_of_writes hwrites,map_eq_ok_iff] at hplan
  obtain ⟨steps,hsteps,rfl⟩ := hplan
  obtain ⟨hall,rfl⟩ := (Specification.collect_eq_ok_iff _ _ _ _ _).1 hsteps
  constructor
  case spec_eq => exact h.spec_eq
  case queue =>
    intro role hrank
    rw [queue_drained,h.queue role hrank]
    have hmem := Phases.mem_paging (p := p) hrank
    by_cases hp : p.empties role <;> simp [hmem,hp]
  case steps =>
    have hrole : ∀ role, role.rank ≠ 0 →
        (s.visited p role).flatMap (s.spec.given s.schema written) =
          if p.empties role ∧ role ∉ roles then spec.stepsOf role else [] := by
      intro role hrank
      have hasked : ∀ d ∈ s.visited p role,
          s.spec.given s.schema written d = (spec.asked? d).toList := by
        intro d hd
        obtain ⟨rfl,hd⟩ := mem_visited.1 hd
        rw [s.spec.eq_asked?_of_asks hrank (hall d (mem_waiting.2 hd)),h.spec_eq]
      rw [List.flatMap_congr hasked,← List.filterMap_eq_flatMap_toList,h.visited p hrank]
      split_ifs <;> rfl
    rw [Step.applyAll_plan]
    change (s.source.steps ++ _).filter Step.pages = _
    rw [List.filter_append,h.steps,List.eraseDups_append,List.flatMap_append,
      Phases.flatMap_paging_removeAll,
      Step.filter_pages_flatMap fun d => (Specification.rank_of_given hone d).2,filter_waiting,
      List.flatMap_append,hrole .skip (by decide),hrole .take (by decide)]

/-- A call pages by the roles that it goes through and that have not come before. -/
lemma Paged.run (h : s.Paged spec roles) (hs : s.Configured) {call : Call Plan}
    (hc : call.ConfiguresOnly) (ht : call.run s = .ok t) :
    t.Paged spec (roles ++ call.paging) := by
  have hother : call.phases? = none → t.source = s.source → t.spec = s.spec →
      (∀ role, t.queue role = s.queue role) → t.Paged spec (roles ++ call.paging) := by
    intro hp hsource hspec hqueue
    have hnone : call.paging = [] := by rw [Call.paging,hp]; rfl
    rw [hnone,List.append_nil]
    exact ⟨hspec.trans h.spec_eq,fun role hrank => (hqueue role).trans (h.queue role hrank),
      hsource ▸ h.steps⟩
  cases call using Call.phaseCases with
  | phases call p hp =>
    rw [Call.run_of_phases? hp] at ht
    rw [Call.paging,hp]
    exact h.drain hs ht
  | allowAllProperties | withPaging =>
    cases ht
    exact hother rfl rfl rfl fun _ => rfl
  | withOverride field u => exact hc.elim
  | configure field choose =>
    change s.configure field choose = _ at ht
    rw [configure_eq,map_eq_ok_iff] at ht
    obtain ⟨_ | p,-,rfl⟩ := ht
    · exact hother rfl rfl rfl fun _ => rfl
    · exact hother rfl rfl rfl fun _ => rfl

/-- A run pages by the roles that its calls go through, each where it first comes. -/
lemma Paged.runAll (h : s.Paged spec roles) (hs : s.Configured) {calls : List (Call Plan)}
    (hc : ∀ call ∈ calls, call.ConfiguresOnly) (ht : Call.runAll calls s = .ok t) :
    t.Paged spec (roles ++ calls.flatMap Call.paging) := by
  induction calls generalizing s roles with
  | nil =>
    cases ht
    simpa using h
  | cons call calls ih =>
    obtain ⟨u,hu,ht⟩ := Call.runAll_cons_eq_ok_iff.1 ht
    have hcall := hc call (by simp)
    rw [List.flatMap_cons,← List.append_assoc]
    exact ih (h.run hs hcall hu) (hs.run hcall hu) (fun c hmem => hc c (by simp [hmem])) ht

/-- Finishing pages by skips and then takes, if paging is on. -/
lemma Paged.finish (h : s.Paged spec roles) (hs : s.Configured) {plan : Plan}
    (hf : s.finish = .ok plan) :
    ∃ t : Search Plan, t.Paged spec (roles ++ if s.paging then [.skip,.take] else []) ∧
      t.source = plan := by
  cases hp : s.paging with
  | false =>
    rw [finish_of_not_paging s hp,applyPredicates_eq,map_eq_ok_iff] at hf
    obtain ⟨t,ht,rfl⟩ := hf
    exact ⟨t,h.drain hs ht,rfl⟩
  | true =>
    rw [finish_of_paging s hp,applyPaging_eq,map_eq_ok_iff] at hf
    obtain ⟨t,ht,rfl⟩ := hf
    exact ⟨t,h.drain hs ht,rfl⟩

lemma Paged.source_skipsAfterTaking_iff (h : s.Paged spec roles)
    (hroles : ∀ role ∈ roles, role = .skip ∨ role = .take) :
    s.source.SkipsAfterTaking ↔ spec.TakesFirst roles := by
  have hfilter : s.source.SkipsAfterTaking ↔
      ∃ n m, [Step.take n,.skip m].Sublist (roles.eraseDups.flatMap spec.stepsOf) := by
    rw [← h.steps]
    constructor
    · rintro ⟨n,m,hsub⟩; exact ⟨n,m,hsub.filter Step.pages⟩
    · rintro ⟨n,m,hsub⟩; exact ⟨n,m,hsub.trans List.filter_sublist⟩
  have hskips : spec.stepsOf .skip = (spec.counts .skip).map .skip := spec.filterMap_asked?_skip
  have htakes : spec.stepsOf .take = (spec.counts .take).map .take := spec.filterMap_asked?_take
  rw [hfilter]
  match roles,hroles with
  | [],_ => simp [Specification.TakesFirst]
  | .skip::rest,hroles =>
    have hsteps : (Role.skip::rest).eraseDups.flatMap spec.stepsOf =
        (spec.counts .skip).map .skip ++
          (if .take ∈ rest then spec.counts .take else []).map .take := by
      rw [eraseDups_cons_of_two (by decide) hroles,List.flatMap_cons,hskips]
      split_ifs <;> simp [htakes]
    rw [hsteps]
    constructor
    · rintro ⟨n,m,hsub⟩; exact absurd hsub (Step.not_sublist_skips_takes _ _ n m)
    · rintro ⟨⟨⟩,-⟩
  | .take::rest,hroles =>
    have hsteps : (Role.take::rest).eraseDups.flatMap spec.stepsOf =
        (spec.counts .take).map .take ++
          (if .skip ∈ rest then spec.counts .skip else []).map .skip := by
      rw [eraseDups_cons_of_two (b := .skip) (by decide) fun role hr => (hroles role hr).symm,
        List.flatMap_cons,htakes]
      split_ifs <;> simp [hskips]
    rw [hsteps,Step.sublist_takes_skips_iff,Specification.TakesFirst]
    split_ifs with hrest <;> simp [hrest]
  | .filter::rest,hroles | .plain::rest,hroles => simpa using hroles _ (List.mem_cons_self ..)

/-- When a skip comes after a take. The skips of a plan come before its takes wherever a run has
got to that starts with an empty plan and overrides fields only by configuring them, and when such a
run is finished; unless the first call that pages is for taking alone, later ones go through skips,
and fields in both roles are set. -/
theorem skipsAfterTaking_iff {schema : Schema} {spec : Specification} {applyAll paging : Bool}
    {calls : List (Call Plan)} {s : Search Plan}
    (configured : ∀ call ∈ calls, call.ConfiguresOnly)
    (reached : Call.runAll calls (start .empty schema spec applyAll paging) = .ok s) :
    (s.source.SkipsAfterTaking ↔ spec.TakesFirst (calls.flatMap Call.paging)) ∧
    ∀ plan, s.finish = .ok plan → (plan.SkipsAfterTaking ↔
      spec.TakesFirst (calls.flatMap Call.paging ++ if s.paging then [.skip,.take] else [])) := by
  have hstart := configured_start Plan.empty schema spec applyAll paging
  have hs := hstart.runAll configured reached
  have h := (paged_start schema spec applyAll paging).runAll hstart configured reached
  have hcalls : ∀ role ∈ calls.flatMap Call.paging, role = .skip ∨ role = .take := by
    intro role hrole
    obtain ⟨call,-,hrole⟩ := List.mem_flatMap.1 hrole
    exact call.eq_of_mem_paging hrole
  constructor
  · exact h.source_skipsAfterTaking_iff hcalls
  · intro plan hplan
    obtain ⟨t,ht,rfl⟩ := h.finish hs hplan
    refine ht.source_skipsAfterTaking_iff fun role hrole => ?_
    rcases List.mem_append.1 hrole with hrole | hrole
    · exact hcalls role hrole
    · split_ifs at hrole
      · simpa using hrole
      · cases hrole

end Search

/-- Pages by one field in each role. -/
def Rooms.windowSpec : Specification where
  fields := [⟨"limit",.take⟩,⟨"offset",.skip⟩]
  setting _ := .scalar (some (.number (.unsigned 1)))

def Rooms.windowPlan : Search Plan := .start .empty schema windowSpec false true

namespace Search

/-- Skips come first if skipping is called for before taking. -/
theorem skipsAfterTaking_iff_rooms :
    ∃ s, Call.runAll [.applySkip,.allowAllProperties,.applyTake] Rooms.windowPlan = .ok s ∧
      s.finish = .ok ⟨[.skip 1,.take 1]⟩ ∧ ¬ Plan.SkipsAfterTaking ⟨[.skip 1,.take 1]⟩ := by
  obtain ⟨s,reached,finished⟩ : ∃ s, Call.runAll [.applySkip,.allowAllProperties,.applyTake]
      Rooms.windowPlan = .ok s ∧ s.finish = .ok ⟨[.skip 1,.take 1]⟩ := ⟨_,rfl,rfl⟩
  have configured : ∀ call ∈ [.applySkip,.allowAllProperties,.applyTake],
      Call.ConfiguresOnly (σ := Plan) call := by simp [Call.ConfiguresOnly]
  have hiff := (skipsAfterTaking_iff configured reached).2 _ finished
  refine ⟨s,reached,finished,fun h => ?_⟩
  obtain ⟨hhead,-⟩ := hiff.1 h
  cases hhead

/-- Taking on its own and then finishing records a skip after the take. -/
theorem skipsAfterTaking_of_applyTake :
    outcome [.applyTake] Rooms.windowPlan = .ok ⟨[.take 1,.skip 1]⟩ ∧
      Plan.SkipsAfterTaking ⟨[.take 1,.skip 1]⟩ :=
  ⟨rfl,1,1,.refl _⟩

end Search
end RecordSearch

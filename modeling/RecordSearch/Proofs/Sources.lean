import RecordSearch.Proofs.Writing

/-! Searches over different sources. A plan writes down the steps that a list of records takes at
once, and a plan is narrowed by whatever narrows the list. So a search over any source fails as the
search over the empty plan fails, and otherwise leaves what the steps of that plan leave. -/
namespace RecordSearch

namespace Plan
variable {ρ : Type} [Record ρ]

lemma countFrom_eq_length (steps : List Step) (rs : List ρ) :
    countFrom steps rs = (run steps rs).length := by
  induction rs generalizing steps with
  | nil => rfl
  | cons r rs ih =>
    rw [countFrom,run]
    cases h : (offer r steps).1 <;> simp [h,ih]

lemma firstFrom?_eq_head? (steps : List Step) (rs : List ρ) :
    firstFrom? steps rs = (run steps rs).head? := by
  induction rs generalizing steps with
  | nil => rfl
  | cons r rs ih =>
    rw [firstFrom?,run]
    cases h : (offer r steps).1 <;> simp [h,ih]

/-- What a plan does to a source: its steps, at once. -/
def enact {σ : Type} [Source σ] (plan : Plan) (source : σ) : σ := Step.applyAll plan.steps source

lemma enact_applyAll {σ : Type} [Source σ] (steps : List Step) (plan : Plan) (source : σ) :
    (Step.applyAll steps plan).enact source = Step.applyAll steps (plan.enact source) := by
  rw [Step.applyAll_plan]
  exact Step.applyAll_append plan.steps steps source

/-- Running a plan over a list of records is narrowing the list by it. -/
lemma execute_eq_enact (plan : Plan) (rs : List ρ) : plan.execute rs = plan.enact rs :=
  run_eq_applyAll plan.steps rs

lemma toList_enact (plan : Plan) (r : Records ρ) :
    (plan.enact r).toList = plan.execute r.toList := by
  rw [execute_eq_enact]
  exact Records.toList_applyAll plan.steps r

end Plan

/-- A call that can be made on a search of any source. What overrides a field is a list of
steps. -/
inductive Request
  | applyFilters
  | applyPlainFields
  | applySkip
  | applyTake
  | applyPaging
  | allowAllProperties
  | withPaging
  | withOverride (field : String) (steps : List Step)
  | configure (field : String) (choose : Configuration → Except SearchError FieldOverride)

/-- The call on a search of a given source. -/
def Request.call {σ : Type} [Source σ] : Request → Call σ
  | applyFilters => .applyFilters
  | applyPlainFields => .applyPlainFields
  | applySkip => .applySkip
  | applyTake => .applyTake
  | applyPaging => .applyPaging
  | allowAllProperties => .allowAllProperties
  | withPaging => .withPaging
  | withOverride field steps => .withOverride field (Step.applyAll steps)
  | configure field choose => .configure field choose

namespace Search
variable {σ : Type} [Source σ]

/-- A search that does to a source what another one writes down. -/
structure Enacts (source : σ) (p : Search Plan) (s : Search σ) : Prop where
  source_eq : s.source = p.source.enact source
  rest_eq : s = { p with source := s.source, overrides := s.overrides }
  overrides : ∃ written, p.overrides.Writes written ∧ s.overrides.Writes written

/-- Calls on two such searches that fail for the same reason, or leave two such searches. -/
inductive Enacting (source : σ) :
    Except SearchError (Search Plan) → Except SearchError (Search σ) → Prop
  | fails (e : SearchError) : Enacting source (.error e) (.error e)
  | goes {p : Search Plan} {s : Search σ} (h : Enacts source p s) : Enacting source (.ok p) (.ok s)

lemma enacts_start (source : σ) (steps : List Step) (schema : Schema) (spec : Specification)
    (applyAll paging : Bool) :
    Enacts source (start (Step.applyAll steps Plan.empty) schema spec applyAll paging)
      (start (Step.applyAll steps source) schema spec applyAll paging) :=
  ⟨(Plan.enact_applyAll steps .empty source).symm,rfl,_,Overrides.writes_empty,
    Overrides.writes_empty⟩

section
variable {source : σ} {p : Search Plan} {s : Search σ}

lemma Enacts.spec_eq (h : Enacts source p s) : s.spec = p.spec := by rw [h.rest_eq]

lemma Enacts.schema_eq (h : Enacts source p s) : s.schema = p.schema := by rw [h.rest_eq]

lemma Enacts.waiting_eq (h : Enacts source p s) (phases : Phases) :
    s.waiting phases = p.waiting phases := by
  rw [h.rest_eq]
  rfl

/-- Narrowing the plan and narrowing the source fail alike, or write and take the same steps. -/
lemma Enacts.narrow (h : Enacts source p s) (ds : List FieldDescriptor) :
    s.narrow ds s.source = (p.narrow ds p.source).map (·.enact source) := by
  obtain ⟨written,hp,hs⟩ := h.overrides
  rw [narrow_of_writes hs,narrow_of_writes hp,h.spec_eq,h.schema_eq,h.source_eq]
  cases p.spec.collect p.schema written ds with
  | error e => rfl
  | ok steps => exact congrArg Except.ok (Plan.enact_applyAll steps p.source source).symm

/-- Overriding a field on both sides by the same steps. -/
lemma Enacts.withOverride (h : Enacts source p s) (field : String) (steps : List Step) :
    Enacts source (p.withOverride field (Step.applyAll steps))
      (s.withOverride field (Step.applyAll steps)) := by
  obtain ⟨written,hp,hs⟩ := h.overrides
  refine ⟨h.source_eq,?_,_,hp.insert field steps,hs.insert field steps⟩
  conv_lhs => rw [h.rest_eq]
  rfl

lemma Enacts.drain (h : Enacts source p s) (phases : Phases) :
    Enacting source (p.drain phases) (s.drain phases) := by
  rw [Search.drain,Search.drain,h.waiting_eq,h.narrow]
  cases p.narrow (p.waiting phases) p.source with
  | error e => exact .fails e
  | ok plan =>
    refine .goes ⟨rfl,?_,h.overrides⟩
    conv_lhs => rw [h.rest_eq]
    rfl

lemma Enacts.configure (h : Enacts source p s) (field : String)
    (choose : Configuration → Except SearchError FieldOverride) :
    Enacting source (p.configure field choose) (s.configure field choose) := by
  rw [configure_eq,configure_eq,h.spec_eq]
  rcases p.spec.chosen? field choose with e | _ | predicate
  · exact .fails e
  · exact .goes h
  · exact .goes (h.withOverride field [.filter predicate])

lemma Enacts.run (h : Enacts source p s) (request : Request) :
    Enacting source (request.call.run p) (request.call.run s) := by
  have phases : ∀ {call : Call Plan} {call' : Call σ} {ps : Phases}, call.phases? = some ps →
      call'.phases? = some ps → Enacting source (call.run p) (call'.run s) := by
    intro call call' ps hc hc'
    rw [Call.run_of_phases? hc,Call.run_of_phases? hc']
    exact h.drain ps
  cases request with
  | applyFilters | applyPlainFields | applySkip | applyTake | applyPaging => exact phases rfl rfl
  | allowAllProperties | withPaging =>
    refine .goes ⟨h.source_eq,?_,h.overrides⟩
    conv_lhs => rw [h.rest_eq]
    rfl
  | withOverride field steps => exact .goes (h.withOverride field steps)
  | configure field choose => exact h.configure field choose

/-- A run over a source comes to what the plan does that the same run over a plan comes to. -/
theorem Enacts.outcome (h : Enacts source p s) (requests : List Request) :
    s.outcome (requests.map Request.call) =
      (p.outcome (requests.map Request.call)).map (·.enact source) := by
  induction requests generalizing p s with
  | nil =>
    have hpending : s.pending = p.pending := by
      rw [h.rest_eq]
      rfl
    change s.finish = p.finish.map _
    rw [finish_eq_narrow,finish_eq_narrow,hpending,h.narrow]
  | cons request requests ih =>
    rw [List.map_cons,List.map_cons,outcome_cons,outcome_cons]
    have hrun := h.run request
    generalize request.call.run p = before at hrun ⊢
    generalize request.call.run s = after at hrun ⊢
    cases hrun with
    | fails e => rfl
    | goes h' => exact ih h'

end

/-- The sources agree. What a plan records and then selects from a list, what it selects while bound
to the list, and what the list is left with when each step is taken at once are the same records;
their number and the first of them are found without collecting them. So it is for whole searches
too, whatever phases have run early and whatever has been configured or overridden by steps: they
fail for the same reason or select the same records. -/
theorem sources_agree {ρ : Type} [Record ρ] (rs : List ρ) (steps : List Step) (schema : Schema)
    (spec : Specification) (applyAll paging : Bool) (requests : List Request) :
    let plan := Step.applyAll steps Plan.empty
    let records := Step.applyAll steps (Records.ofList rs)
    let list := Step.applyAll steps rs
    (plan.steps = steps ∧ plan.execute rs = list ∧ records.toList = list ∧
      records.count = list.length ∧ records.first? = list.head?) ∧
    ((start plan schema spec applyAll paging).outcome (requests.map Request.call)).map
        (·.execute rs) =
      (start list schema spec applyAll paging).outcome (requests.map Request.call) ∧
    ((start records schema spec applyAll paging).outcome (requests.map Request.call)).map
        Records.toList =
      (start list schema spec applyAll paging).outcome (requests.map Request.call) := by
  intro plan records list
  have hlist : list = plan.execute rs := by
    rw [Plan.execute_eq_enact]
    exact (Plan.enact_applyAll steps .empty rs).symm
  have hrecords : records.toList = list := by
    rw [Records.toList_applyAll,Records.toList_ofList]
  have onList := (enacts_start rs steps schema spec applyAll paging).outcome requests
  have onRecords := (enacts_start (Records.ofList rs) steps schema spec applyAll paging).outcome
    requests
  refine ⟨⟨?_,hlist.symm,hrecords,?_,?_⟩,?_,?_⟩
  · exact congrArg Plan.steps (Step.applyAll_plan steps .empty)
  · rw [← hrecords]
    exact Plan.countFrom_eq_length _ _
  · rw [← hrecords]
    exact Plan.firstFrom?_eq_head? _ _
  · rw [onList,funext fun plan => Plan.execute_eq_enact plan rs]
  · rw [onList,onRecords]
    cases (start plan schema spec applyAll paging).outcome (requests.map Request.call) with
    | error e => rfl
    | ok found =>
      change Except.ok (found.enact (Records.ofList rs)).toList = .ok (found.enact rs)
      rw [Plan.toList_enact,Records.toList_ofList,Plan.execute_eq_enact]

end Search
end RecordSearch

import RecordSearch.MultiSearch
import RecordSearch.Proofs.Trace
import RecordSearch.Proofs.Validation
import RecordSearch.Search.Options

/-! Filters that constrain nothing. An inactive filter is looked at no further, on whatever field it
is put: the field is not looked up, the filter is not asked for a predicate, and nothing fails. For
whole searches this comes from the little that a search reads of a setting, its active filter and
its scalar: specifications that agree on these cannot be told apart by any run. -/
namespace RecordSearch

namespace Specification

/-- The same fields, with settings in which a search reads the same. -/
structure ReadsAs (spec spec' : Specification) : Prop where
  fields : spec'.fields = spec.fields
  activeFilter? : ∀ field, (spec'.setting field).activeFilter? = (spec.setting field).activeFilter?
  scalar? : ∀ field, (spec'.setting field).scalar? = (spec.setting field).scalar?

namespace ReadsAs
variable {spec spec' : Specification}

lemma step?_eq (h : spec.ReadsAs spec') (schema : Schema) (d : FieldDescriptor) :
    spec'.step? schema d = spec.step? schema d := by
  simp only [step?,pagingSetting,h.activeFilter?,h.scalar?]

lemma chosen?_eq (h : spec.ReadsAs spec') (field : String)
    (choose : Configuration → Except SearchError FieldOverride) :
    spec'.chosen? field choose = spec.chosen? field choose := by
  simp only [chosen?,descriptor?,h.fields,h.activeFilter?]

end ReadsAs

/-- The specification with a filter field unset. -/
def unset (spec : Specification) (field : String) : Specification where
  fields := spec.fields
  setting other := if other = field then .unsetFilter else spec.setting other

/-- A search reads nothing in an inactive filter. -/
lemma readsAs_unset {spec : Specification} {field : String} {f : Filter}
    (inactive : f.isActive = false) (set : spec.setting field = .filter f) :
    spec.ReadsAs (spec.unset field) where
  fields := rfl
  activeFilter? other := by
    by_cases h : other = field
    · subst h
      simp [unset,set,Setting.activeFilter?,inactive]
    · simp [unset,h]
  scalar? other := by
    by_cases h : other = field
    · subst h
      simp [unset,set,Setting.scalar?]
    · simp [unset,h]

end Specification

namespace Search
variable {σ : Type}

/-- The search with another specification, as far as it has come. -/
def withSpec (s : Search σ) (spec : Specification) : Search σ := { s with spec }

variable [Source σ] {s : Search σ} {spec : Specification}

lemma transform_withSpec (h : s.spec.ReadsAs spec) (d : FieldDescriptor) :
    (s.withSpec spec).transform d = s.transform d := by
  have hoverride : (s.withSpec spec).override? d = s.override? d := rfl
  have hstep : (s.withSpec spec).spec.step? (s.withSpec spec).schema d = s.spec.step? s.schema d :=
    h.step?_eq s.schema d
  simp only [transform,hoverride,hstep]

lemma narrow_withSpec (h : s.spec.ReadsAs spec) (ds : List FieldDescriptor) (source : σ) :
    (s.withSpec spec).narrow ds source = s.narrow ds source := by
  simp only [narrow,transform_withSpec h]

lemma validate_withSpec (h : s.spec.ReadsAs spec) :
    (s.withSpec spec).validate = s.validate := by
  have hwaiting : (s.withSpec spec).waiting .all = s.waiting .all := rfl
  have hcheck : (s.withSpec spec).check = s.check := by
    funext d
    rw [check,check,transform_withSpec h]
  rw [validate_eq_forM,validate_eq_forM,hwaiting,hcheck]

lemma finish_withSpec (h : s.spec.ReadsAs spec) : (s.withSpec spec).finish = s.finish := by
  have hpending : (s.withSpec spec).pending = s.pending := rfl
  rw [finish_eq_narrow,finish_eq_narrow,narrow_withSpec h,hpending]
  rfl

/-- A call does the same under both specifications, and fails alike. -/
lemma run_withSpec (h : s.spec.ReadsAs spec) (call : Call σ) :
    call.run (s.withSpec spec) = (call.run s).map (·.withSpec spec) := by
  cases call using Call.phaseCases with
  | phases call p hp =>
    have hwaiting : (s.withSpec spec).waiting p = s.waiting p := rfl
    have hsource : (s.withSpec spec).source = s.source := rfl
    rw [Call.run_of_phases? hp,Call.run_of_phases? hp,drain,drain,hwaiting,hsource,
      narrow_withSpec h]
    cases s.narrow (s.waiting p) s.source <;> rfl
  | allowAllProperties => rfl
  | withPaging => rfl
  | withOverride field t => rfl
  | configure field choose =>
    have hchosen : (s.withSpec spec).spec.chosen? field choose = s.spec.chosen? field choose :=
      h.chosen?_eq field choose
    change (s.withSpec spec).configure field choose = (s.configure field choose).map _
    rw [configure_eq,configure_eq,hchosen]
    rcases s.spec.chosen? field choose with e | _ | p <;> rfl

lemma spec_of_run {t : Search σ} {call : Call σ} (h : call.run s = .ok t) : t.spec = s.spec := by
  obtain ⟨source,rfl⟩ := call.run_eq_ok h
  exact call.spec_after s

/-- By induction over the calls, each of which keeps the specification it runs under. -/
lemma runAll_withSpec (h : s.spec.ReadsAs spec) (calls : List (Call σ)) :
    Call.runAll calls (s.withSpec spec) = (Call.runAll calls s).map (·.withSpec spec) := by
  induction calls generalizing s with
  | nil => rfl
  | cons call calls ih =>
    rw [Call.runAll,Call.runAll,List.foldlM_cons,List.foldlM_cons,run_withSpec h]
    cases hrun : call.run s with
    | error e => rfl
    | ok t =>
      have hspec : t.spec.ReadsAs spec := by rwa [spec_of_run hrun]
      exact ih hspec

lemma spec_of_runAll {t : Search σ} {calls : List (Call σ)} (h : Call.runAll calls s = .ok t) :
    t.spec = s.spec := by
  refine foldlM_induction (I := fun u => u.spec = s.spec) ?_ rfl h
  intro call _ u v hu hv
  exact (spec_of_run hv).trans hu

/-- What cannot tell the specifications apart in any search cannot do so after a run. -/
lemma runAll_bind_withSpec {α : Type} (h : s.spec.ReadsAs spec) (calls : List (Call σ))
    {next : Search σ → Except SearchError α}
    (hnext : ∀ {t : Search σ}, t.spec.ReadsAs spec → next (t.withSpec spec) = next t) :
    (Call.runAll calls (s.withSpec spec) >>= next) = Call.runAll calls s >>= next := by
  rw [runAll_withSpec h]
  cases hrun : Call.runAll calls s with
  | error e => rfl
  | ok t =>
    have hspec : t.spec.ReadsAs spec := by rwa [spec_of_runAll hrun]
    exact hnext hspec

/-- Nor can it after a search is made, whether or not validation at the start was asked for. -/
lemma startWith_bind_of_readsAs {α : Type} {spec spec' : Specification} (h : spec.ReadsAs spec')
    (source : σ) (schema : Schema) (o : SearchOptions) {next : Search σ → Except SearchError α}
    (hnext : ∀ {t : Search σ}, t.spec.ReadsAs spec' → next (t.withSpec spec') = next t) :
    (startWith source schema spec' o >>= next) = startWith source schema spec o >>= next := by
  obtain ⟨applyAll,paging,validation⟩ := o
  have hstart : start source schema spec' applyAll paging =
      (start source schema spec applyAll paging).withSpec spec' := by
    simp only [start,withSpec,Specification.named,h.fields]
  cases validation with
  | onUse =>
    change next (start source schema spec' applyAll paging) = _
    rw [hstart]
    exact hnext h
  | atStart =>
    change ((start source schema spec' applyAll paging).validate >>= fun _ =>
        Except.ok (start source schema spec' applyAll paging)) >>= next =
      ((start source schema spec applyAll paging).validate >>= fun _ =>
        Except.ok (start source schema spec applyAll paging)) >>= next
    rw [hstart,validate_withSpec h]
    cases (start source schema spec applyAll paging).validate with
    | error e => rfl
    | ok u => exact hnext h

end Search

/-- An inactive filter, whatever predicate it would build, has no influence anywhere: not on a
search of one field or of several, whether or not there are such fields, not on a search where it
is configured, and not on any run. There it may as well be unset: validation agrees in every state,
calls leave the same search or fail with the same error, and the same comes of them. -/
theorem inactive_filter_ignored {σ : Type} [Source σ] {f : Filter} (inactive : f.isActive = false) :
    (∀ (schema : Schema) (field : String) (source : σ),
      Source.searchField schema field f source = .ok source) ∧
    (∀ (m : MultiSearch σ) (field : String), m.filter = f → m.on field = .ok m) ∧
    (∀ (s : Search σ) (d : FieldDescriptor),
      s.spec.descriptor? d.name = some d → d.role = .filter → s.spec.setting d.name = .filter f →
        s.configuration? d.name = .ok none ∧ ∀ choose, s.configure d.name choose = .ok s) ∧
    ∀ (spec : Specification) (field : String), spec.setting field = .filter f →
      (∀ s : Search σ, s.spec = spec →
        let unset := s.withSpec (spec.unset field)
        unset.validate = s.validate ∧
        ∀ calls : List (Call σ),
          Call.runAll calls unset = (Call.runAll calls s).map (·.withSpec (spec.unset field)) ∧
          (Call.runAll calls unset >>= Search.validate) =
            Call.runAll calls s >>= Search.validate ∧
          Search.outcome calls unset = Search.outcome calls s) ∧
      ∀ (source : σ) (schema : Schema) (o : SearchOptions) (calls : List (Call σ)),
        (Search.startWith source schema (spec.unset field) o >>= Search.outcome calls) =
          Search.startWith source schema spec o >>= Search.outcome calls := by
  refine ⟨?_,?_,?_,?_⟩
  · intro schema field source
    rw [Source.searchField,inactive]
    rfl
  · rintro m field rfl
    rw [MultiSearch.on,inactive]
    rfl
  · intro s d declared role set
    have hunused : (s.spec.setting d.name).activeFilter? = none := by
      simp [set,Setting.activeFilter?,inactive]
    have hconfiguration : s.configuration? d.name = .ok none := by
      simp only [Search.configuration?,declared,role,hunused,if_true,Option.map_none]
    refine ⟨hconfiguration,fun choose => ?_⟩
    rw [Search.configure,hconfiguration]
    rfl
  · intro spec field set
    have hreads : spec.ReadsAs (spec.unset field) := Specification.readsAs_unset inactive set
    constructor
    · rintro s rfl
      refine ⟨Search.validate_withSpec hreads,fun calls => ⟨?_,?_,?_⟩⟩
      · exact Search.runAll_withSpec hreads calls
      · exact Search.runAll_bind_withSpec hreads calls Search.validate_withSpec
      · exact Search.runAll_bind_withSpec hreads calls Search.finish_withSpec
    · intro source schema o calls
      refine Search.startWith_bind_of_readsAs hreads source schema o fun hs => ?_
      exact Search.runAll_bind_withSpec hs calls Search.finish_withSpec

namespace Rooms

/-- Would ask of any field that it is set, but is not active. -/
def idle : Filter := { isSet with isActive := false }

/-- Asks for lit rooms. The other filter is idle, and no field of a room goes by its name. -/
def idleSpec : Specification where
  fields := [⟨"on",.filter⟩,⟨"lit",.filter⟩]
  setting field := if field = "on" then .filter idle else .filter isSet

def idleSearch : Search (Records Room) := .start rooms schema idleSpec false false

/-- Nothing notices the field that is missing and the closure that fails. -/
theorem inactive_filter_ignored_rooms :
    idle.isActive = false ∧ idle.predicate? "cellar" = some (.compare "cellar" .eq (.bool true)) ∧
    Source.searchField schema "cellar" idle rooms = .ok rooms ∧
    (MultiSearch.start rooms schema idle .or).on "cellar" = .ok (.start rooms schema idle .or) ∧
    idleSearch.configure "on" (fun _ => .error (.unknownField "cellar")) = .ok idleSearch ∧
    (idleSearch.withSpec (idleSpec.unset "on")).validate = .ok () ∧
    (Search.outcome [.applySkip] (idleSearch.withSpec (idleSpec.unset "on"))).map Records.toList =
      .ok [⟨true,true⟩,⟨false,true⟩,⟨true,true⟩] := by
  have inactive : idle.isActive = false := rfl
  obtain ⟨hfield,hon,hconfigure,hruns⟩ := inactive_filter_ignored (σ := Records Room) inactive
  obtain ⟨hunset,-⟩ := hruns idleSpec "on" rfl
  obtain ⟨hvalidate,hcalls⟩ := hunset idleSearch rfl
  obtain ⟨-,-,houtcome⟩ := hcalls [.applySkip]
  refine ⟨rfl,rfl,?_,?_,?_,?_,?_⟩
  · exact hfield schema "cellar" rooms
  · exact hon (.start rooms schema idle .or) "cellar" rfl
  · exact (hconfigure idleSearch ⟨"on",.filter⟩ rfl rfl rfl).2 _
  · exact hvalidate.trans rfl
  · rw [houtcome]
    rfl

end Rooms
end RecordSearch

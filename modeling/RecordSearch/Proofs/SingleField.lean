import RecordSearch.Filter.Collection
import RecordSearch.MultiSearch
import RecordSearch.Proofs.Contributions
import RecordSearch.Proofs.Overriding

/-! One filter on one record field. There are four ways to put an active filter on a field: to
search the field, to search several fields and name just one, to map a configuration to it, and to
declare a filter field of its name. All of them ask the same of the field. They narrow a source by
the same steps, and where the field does not take the filter they fail for the same reason, the last
with an error of its own. -/
namespace RecordSearch

namespace Schema

/-- Why a field does not take a filter: the problem that selecting the field has, and the error of a
filter field of its name. -/
inductive Refuses (schema : Schema) (field : String) (f : Filter) :
    SelectorProblem → SearchError → Prop
  | unknown (undeclared : schema.kind? field = none) :
      Refuses schema field f .noRecordField (.unknownField field)
  | kind {kind} (declared : schema.kind? field = some kind) (refused : f.accepts kind = false) :
      Refuses schema field f (.wrongKind kind f.target) (.typeMismatch field kind f.target)
  | element {kind record wanted} (declared : schema.kind? field = some kind)
      (accepted : f.accepts kind = true) (holds : schema.element? field = some record)
      (asked : f.element? = some wanted) (differ : record ≠ wanted) :
      Refuses schema field f (.wrongElement record wanted) (.typeMismatch field record wanted)

section
variable {schema : Schema} {field : String} {f : Filter}

lemma takes_or_refuses (schema : Schema) (field : String) (f : Filter) :
    schema.Takes field f ∨ ∃ problem e, schema.Refuses field f problem e := by
  cases hk : schema.kind? field with
  | none => exact .inr ⟨_,_,.unknown hk⟩
  | some kind =>
    rcases hm : schema.mismatch? field kind f with _ | ⟨a,b⟩
    · exact .inl ((schema.takes_iff field f).2 ⟨kind,hk,hm⟩)
    · obtain ⟨refused,rfl,rfl⟩ | ⟨accepted,holds,asked,differ⟩ :=
        (schema.mismatch?_eq_some_iff field kind f a b).1 hm
      · exact .inr ⟨_,_,.kind hk refused⟩
      · exact .inr ⟨_,_,.element hk accepted holds asked differ⟩

lemma Refuses.checkSelector {problem : SelectorProblem} {e : SearchError}
    (h : schema.Refuses field f problem e) :
    schema.checkSelector field f = .error (.invalidSelector field problem) := by
  cases h with
  | unknown undeclared => simp [Schema.checkSelector,undeclared]
  | kind declared refused => simp [Schema.checkSelector,declared,mismatch?,refused]
  | element declared accepted holds asked differ =>
    simp [Schema.checkSelector,declared,mismatch?,accepted,holds,asked,differ]

lemma Refuses.filterPredicate {problem : SelectorProblem} {e : SearchError}
    (h : schema.Refuses field f problem e) : schema.filterPredicate field f = .error e := by
  cases h with
  | unknown undeclared => simp [Schema.filterPredicate,undeclared]
  | kind declared refused => simp [Schema.filterPredicate,declared,mismatch?,refused]
  | element declared accepted holds asked differ =>
    simp [Schema.filterPredicate,declared,mismatch?,accepted,holds,asked,differ]

/-- No field both takes a filter and refuses it. -/
lemma Refuses.not_takes {problem : SelectorProblem} {e : SearchError}
    (h : schema.Refuses field f problem e) : ¬ schema.Takes field f := by
  intro takes
  obtain ⟨kind,known,accepts⟩ := takes.accepted
  cases h with
  | unknown undeclared => simp [undeclared] at known
  | kind declared refused =>
    cases declared.symm.trans known
    simp [accepts] at refused
  | element declared accepted holds asked differ => exact differ (takes.elements _ _ holds asked)

/-- A field refuses a filter for one reason. -/
lemma Refuses.unique {problem problem' : SelectorProblem} {e e' : SearchError}
    (h : schema.Refuses field f problem e) (h' : schema.Refuses field f problem' e') :
    problem = problem' ∧ e = e' := by
  have hproblem := h.checkSelector.symm.trans h'.checkSelector
  have he := h.filterPredicate.symm.trans h'.filterPredicate
  simp only [Except.error.injEq,SearchError.invalidSelector.injEq,true_and] at hproblem he
  exact ⟨hproblem,he⟩

end
end Schema

namespace Specification

/-- A field that is set to nothing of the sort that its role reads. -/
def Unset (spec : Specification) (d : FieldDescriptor) : Prop :=
  match d.role with
  | .filter => ∀ f, spec.setting d.name ≠ .filter f
  | .plain | .skip | .take => ∀ v, spec.setting d.name ≠ .scalar (some v)

/-- The only field that is set is a filter field, declared once. -/
structure SetsOnly (spec : Specification) (field : String) (f : Filter) : Prop where
  once : spec.fields.count ⟨field,.filter⟩ = 1
  set : spec.setting field = .filter f
  others : ∀ d ∈ spec.fields, d ≠ ⟨field,.filter⟩ → spec.Unset d

/-- An unset field asks for nothing. -/
lemma Unset.step? {spec : Specification} {d : FieldDescriptor} (h : spec.Unset d)
    (schema : Schema) : spec.step? schema d = .ok none := by
  obtain ⟨field,role⟩ := d
  cases role with
  | filter =>
    have hnone : (spec.setting field).activeFilter? = none := by
      rw [Option.eq_none_iff_forall_not_mem]
      intro f hf
      exact h f ((Setting.activeFilter?_eq_some_iff _ f).1 hf).1
    simp only [Specification.step?,hnone]
  | plain | skip | take =>
    have hnone : (spec.setting field).scalar? = none := by
      rw [Option.eq_none_iff_forall_not_mem]
      intro v hv
      exact h v ((Setting.scalar?_eq_some_iff _ v).1 hv)
    simp [Specification.step?,pagingSetting,hnone,Except.map]

end Specification

variable {σ : Type} [Source σ]

lemma Source.filterBy?_eq_applyAll (p : Option Predicate) (source : σ) :
    filterBy? p source = Step.applyAll (p.toList.map .filter) source := by
  cases p <;> rfl

namespace MultiSearch

/-- A filter on one field alone is not grouped with others, whatever the mode. -/
lemma apply_on_start (source : σ) (schema : Schema) (field : String) {f : Filter}
    (active : f.isActive = true) (mode : ApplyMode) :
    ((start source schema f mode).on field).map apply =
      (schema.checkSelector field f).map fun _ => Source.filterBy? (f.predicate? field) source := by
  have hon : (start source schema f mode).on field = (schema.checkSelector field f).map fun _ =>
      ⟨source,schema,f,mode,(f.predicate? field).toList⟩ := by
    change (if f.isActive then _ else _) = _
    rw [if_pos active]
    change (schema.checkSelector field f >>= fun _ => _) = _
    cases schema.checkSelector field f <;> rfl
  have happly : apply ⟨source,schema,f,mode,(f.predicate? field).toList⟩ =
      Source.filterBy? (f.predicate? field) source := by
    rw [apply,predicate?]
    cases f.predicate? field with
    | none => cases mode <;> rfl
    | some p => rw [Option.toList_some,ApplyMode.combine_singleton]
  rw [hon,← happly]
  cases schema.checkSelector field f <;> rfl

end MultiSearch

namespace Search

/-- Fields that do nothing may be left out. -/
lemma narrow_of_idle {s : Search σ} {d : FieldDescriptor} {ds : List FieldDescriptor}
    (idle : ∀ e ∈ ds, e ≠ d → s.transform e = .ok id) (source : σ) :
    s.narrow ds source = s.narrow (ds.filter (· == d)) source := by
  induction ds generalizing source with
  | nil => rfl
  | cons e ds ih =>
    have hrest := ih fun other hother => idle other (by simp [hother])
    by_cases he : e = d
    · rw [List.filter_cons_of_pos (by simpa using he),narrow_cons,narrow_cons,funext hrest]
    · rw [List.filter_cons_of_neg (by simpa using he),narrow_cons,idle e (by simp) he]
      exact hrest source

/-- A search with one set field does what that field asks. -/
lemma finish_of_setsOnly (source : σ) (schema : Schema) {spec : Specification} {field : String}
    {f : Filter} (active : f.isActive = true) (only : spec.SetsOnly field f)
    (applyAll paging : Bool) : (start source schema spec applyAll paging).finish =
      (schema.filterPredicate field f).map (Source.filterBy? · source) := by
  let s := start source schema spec applyAll paging
  have idle : ∀ d ∈ s.pending, d ≠ ⟨field,.filter⟩ → s.transform d = .ok id := by
    intro d hd hne
    have hmem : d.name ∈ spec.named d.role := queue_start source schema spec _ _ d.role ▸
      (mem_waiting.1 hd).2
    have unset := only.others d (Specification.mem_named.1 hmem) hne
    have hstep : s.spec.step? s.schema d = .ok none := unset.step? schema
    rw [transform_of_no_overrides s rfl,hstep]
    rfl
  have hcount : s.pending.count ⟨field,.filter⟩ = 1 := by
    rw [pending,count_waiting,← only.once,← spec.count_named]
    cases s.paging <;> rfl
  have hset : (s.spec.setting field).activeFilter? = some f :=
    (Setting.activeFilter?_eq_some_iff _ f).2 ⟨only.set,active⟩
  have unchanged : s.overrides.find? field = none := rfl
  calc s.finish = s.narrow [⟨field,.filter⟩] source := by
        rw [finish_eq_narrow,narrow_of_idle idle,List.filter_beq,hcount]
        rfl
    _ = s.applyFilter source field := by
        rw [narrow_cons,applyFilter_eq]
        cases s.transform ⟨field,.filter⟩ <;> rfl
    _ = (schema.filterPredicate field f).map (Source.filterBy? · source) := by
        simp only [applyFilter,unchanged,hset]
        rfl

end Search

/-- The four ways to put an active filter on one field accept alike and refuse alike. If the field
takes the filter, three of them narrow the source by the predicate that the filter has for it, or
not at all if it has none, and the configuration has one target more. If not, the first three fail
with the same problem of the selected field, and the search with that field's own error. -/
theorem filter_on_field (source : σ) (schema : Schema) (field : String) {f : Filter}
    (active : f.isActive = true) (mode : ApplyMode) {c : Configuration} (configures : c.filter = f)
    {spec : Specification} (only : spec.SetsOnly field f) (applyAll paging : Bool) :
    let searched := Source.searchField schema field f source
    let collected := ((MultiSearch.start source schema f mode).on field).map MultiSearch.apply
    let mapped := c.mapTo schema field
    let finished := (Search.start source schema spec applyAll paging).finish
    (schema.Takes field f ∧
      let narrowed := Step.applyAll ((f.predicate? field).toList.map .filter) source
      searched = .ok narrowed ∧ collected = .ok narrowed ∧
        mapped = .ok { c with targets := c.targets ++ [field] } ∧ finished = .ok narrowed) ∨
    ∃ problem e, schema.Refuses field f problem e ∧
      let refused := SearchError.invalidSelector field problem
      searched = .error refused ∧ collected = .error refused ∧ mapped = .error refused ∧
        finished = .error e := by
  intro searched collected mapped finished
  have hsearched : searched = (schema.checkSelector field f).map fun _ =>
      Source.filterBy? (f.predicate? field) source := by
    change Source.searchField _ _ _ _ = _
    rw [Source.searchField,if_pos active]
    cases schema.checkSelector field f <;> rfl
  have hcollected : collected = (schema.checkSelector field f).map fun _ =>
      Source.filterBy? (f.predicate? field) source :=
    MultiSearch.apply_on_start source schema field active mode
  have hmapped : mapped = (schema.checkSelector field f).map fun _ =>
      { c with targets := c.targets ++ [field] } := by
    change c.mapTo schema field = _
    rw [Configuration.mapTo,configures]
    cases schema.checkSelector field f <;> rfl
  have hfinished : finished = (schema.filterPredicate field f).map (Source.filterBy? · source) :=
    Search.finish_of_setsOnly source schema active only applyAll paging
  rw [hsearched,hcollected,hmapped,hfinished]
  obtain takes | ⟨problem,e,refuses⟩ := schema.takes_or_refuses field f
  · left
    have hcheck := (schema.checkSelector_eq_ok_iff field f).2 takes
    have hpredicate := (schema.filterPredicate_eq_ok_iff field f _).2 ⟨takes,rfl⟩
    rw [hcheck,hpredicate,← Source.filterBy?_eq_applyAll]
    exact ⟨takes,rfl,rfl,rfl,rfl⟩
  · right
    rw [refuses.checkSelector,refuses.filterPredicate]
    exact ⟨problem,e,refuses,rfl,rfl,rfl,rfl⟩

/-- Asks for one thing of rooms by a field of the same name. -/
def Rooms.singleSpec (field : String) (f : Filter) : Specification where
  fields := [⟨field,.filter⟩,⟨"limit",.take⟩]
  setting other := if other = field then .filter f else .missing

lemma Rooms.setsOnly_singleSpec (field : String) (f : Filter) :
    (singleSpec field f).SetsOnly field f where
  once := by simp [singleSpec]
  set := if_pos rfl
  others := by
    intro d hd hne
    obtain rfl : d = ⟨"limit",.take⟩ := by simpa [singleSpec,hne] using hd
    intro v
    by_cases h : "limit" = field <;> simp [singleSpec,h]

/-- Rooms that also list the names of their guests. -/
def Rooms.guestSchema : Schema where
  kind? field := if field = "guests" then some .list else schema.kind? field
  element? field := if field = "guests" then some .string else none

/-- Asks for lists with the number 1. -/
def Rooms.hasOne : Filter :=
  CollectionFilter.toFilter (t := OperandType.int32) { containsAny := [1] }

/-- No way leads to a filter on a field of a room. -/
structure Rooms.AllRefuse (field : String) (f : Filter) (problem : SelectorProblem)
    (e : SearchError) : Prop where
  searched : Source.searchField guestSchema field f Plan.empty =
    .error (.invalidSelector field problem)
  collected : ((MultiSearch.start Plan.empty guestSchema f .or).on field).map MultiSearch.apply =
    .error (.invalidSelector field problem)
  mapped : (Configuration.start "on" f).mapTo guestSchema field =
    .error (.invalidSelector field problem)
  finished : (Search.start Plan.empty guestSchema (singleSpec field f) false true).finish = .error e

open Rooms in
/-- All ways ask for lit rooms. None finds a field that rooms do not have, takes a list for a flag,
or looks for numbers among names. -/
theorem filter_on_field_rooms :
    let isLit : Plan := ⟨[.filter (.compare "lit" .eq (.bool true))]⟩
    (isSet.isActive = true ∧ hasOne.isActive = true ∧
      ∀ field f, (singleSpec field f).SetsOnly field f) ∧
    (Source.searchField guestSchema "lit" isSet Plan.empty = .ok isLit ∧
      ((MultiSearch.start Plan.empty guestSchema isSet .or).on "lit").map MultiSearch.apply =
        .ok isLit ∧
      (Configuration.start "on" isSet).mapTo guestSchema "lit" = .ok ⟨"on",isSet,["lit"]⟩ ∧
      (Search.start Plan.empty guestSchema (singleSpec "lit" isSet) false true).finish =
        .ok isLit) ∧
    AllRefuse "on" isSet .noRecordField (.unknownField "on") ∧
    AllRefuse "guests" isSet (.wrongKind .list .bool) (.typeMismatch "guests" .list .bool) ∧
    AllRefuse "guests" hasOne (.wrongElement .string .number)
      (.typeMismatch "guests" .string .number) := by
  have outcome (field : String) {f : Filter} (active : f.isActive = true) :=
    filter_on_field Plan.empty guestSchema field active .or
      (rfl : (Configuration.start "on" f).filter = f) (setsOnly_singleSpec field f) false true
  have allRefuse {field : String} {f : Filter} {problem : SelectorProblem} {e : SearchError}
      (active : f.isActive = true) (refuses : guestSchema.Refuses field f problem e) :
      AllRefuse field f problem e := by
    obtain ⟨takes,-⟩ | ⟨problem',e',refuses',searched,collected,mapped,finished⟩ :=
      outcome field active
    · exact absurd takes refuses.not_takes
    · obtain ⟨rfl,rfl⟩ := refuses.unique refuses'
      exact ⟨searched,collected,mapped,finished⟩
  refine ⟨⟨rfl,rfl,setsOnly_singleSpec⟩,?_,?_,?_,?_⟩
  · obtain ⟨-,accepted⟩ | ⟨problem,e,refuses,-⟩ := outcome "lit" (rfl : isSet.isActive = true)
    · exact accepted
    · cases refuses.checkSelector
  · exact allRefuse rfl (.unknown rfl)
  · exact allRefuse rfl (.kind rfl rfl)
  · exact allRefuse rfl (.element rfl rfl rfl rfl (by decide))

end RecordSearch

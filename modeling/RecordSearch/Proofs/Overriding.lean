import RecordSearch.MultiSearch
import RecordSearch.Proofs.Grouping
import RecordSearch.Proofs.Lookups
import RecordSearch.Proofs.Selection
import RecordSearch.Proofs.Trace

/-! Overriding one field. A configured field narrows by the combined predicate of its targets, in
its own place among the filters; the rest of a run does not notice. -/
namespace RecordSearch

namespace Plan

/-- A transform that adds some steps to whatever plan it is given. -/
def Appends (t : Transform Plan) : Prop := ∃ steps, ∀ plan : Plan, t plan = ⟨plan.steps ++ steps⟩

lemma appends_id : Appends id := ⟨[],fun plan => by simp⟩

lemma appends_applyAll (steps : List Step) : Appends (Step.applyAll steps) :=
  ⟨steps,Step.applyAll_plan steps⟩

lemma appends_filterBy (p : Predicate) : Appends (Source.filterBy p) := ⟨[.filter p],fun _ => rfl⟩

end Plan

/-- A call that overrides a field, if it does, only by what adds steps. -/
def Call.AppendsOnly : Call Plan → Prop
  | .withOverride _ t => Plan.Appends t
  | _ => True

namespace Search

/-- All overrides of a search add steps. -/
def AppendsOnly (s : Search Plan) : Prop :=
  ∀ field t, s.overrides.find? field = some t → Plan.Appends t

lemma AppendsOnly.after {s : Search Plan} (h : s.AppendsOnly) {call : Call Plan}
    (hc : call.AppendsOnly) : (call.after s).AppendsOnly := by
  intro field t ht
  rw [Call.overrides_after] at ht
  cases call with
  | withOverride other u => exact Overrides.of_find?_insert h hc ht
  | configure other choose =>
    simp only [Call.overriding] at ht
    split at ht
    · exact Overrides.of_find?_insert h (Plan.appends_filterBy _) ht
    · exact h field t ht
  | _ => exact h field t ht

lemma AppendsOnly.transform {s : Search Plan} (h : s.AppendsOnly) {d : FieldDescriptor}
    {t : Transform Plan} (ht : s.transform d = .ok t) : Plan.Appends t := by
  rw [Search.transform] at ht
  cases ho : s.override? d with
  | none =>
    simp only [ho,map_eq_ok_iff] at ht
    obtain ⟨step,-,rfl⟩ := ht
    exact Plan.appends_applyAll _
  | some u =>
    rw [ho] at ht
    cases ht
    exact h d.name _ (find?_of_override? ho)

/-- Whatever happens in such a run adds steps. -/
lemma AppendsOnly.trace {calls : List (Call Plan)} (hcalls : ∀ call ∈ calls, call.AppendsOnly)
    {s : Search Plan} (h : s.AppendsOnly) :
    ∀ e ∈ trace calls s, ∀ t, e.effect = .ok t → Plan.Appends t := by
  have fields : ∀ {s : Search Plan} {ds : List FieldDescriptor}, s.AppendsOnly →
      ∀ e ∈ ds.map s.event, ∀ t, e.effect = .ok t → Plan.Appends t := by
    intro s ds h e he t ht
    obtain ⟨d,-,rfl⟩ := List.mem_map.1 he
    exact h.transform ht
  induction calls generalizing s with
  | nil => exact fields h
  | cons call calls ih =>
    intro e he t ht
    rcases List.mem_append.1 he with he | he
    · cases call using Call.phaseCases with
      | phases call p hp =>
        rw [Call.events_of_phases? hp] at he
        exact fields h e he t ht
      | allowAllProperties => cases he
      | withPaging => cases he
      | withOverride other t => cases he
      | configure other choose =>
        rw [List.mem_singleton.1 he] at ht
        obtain ⟨p,-,rfl⟩ := map_eq_ok_iff.1 ht
        exact Plan.appends_id
    · exact ih (fun c hc => hcalls c (by simp [hc])) (h.after (hcalls call (by simp))) e he t ht

section
variable {σ : Type}

/-- What calls keep of the search they started from. -/
structure Follows (schema : Schema) (spec : Specification) (s : Search σ) : Prop where
  schema_eq : s.schema = schema
  spec_eq : s.spec = spec
  filters : s.filters.Sublist (spec.named .filter)
  plain : s.plain.Sublist (spec.named .plain)

lemma follows_start (source : σ) (schema : Schema) (spec : Specification) (applyAll paging : Bool) :
    (start source schema spec applyAll paging).Follows schema spec :=
  ⟨rfl,rfl,List.Sublist.refl _,List.Sublist.refl _⟩

variable [Source σ] {schema : Schema} {spec : Specification}

lemma Follows.run {s t : Search σ} (h : s.Follows schema spec) {call : Call σ}
    (ht : call.run s = .ok t) : t.Follows schema spec := by
  obtain ⟨source,rfl⟩ := call.run_eq_ok ht
  obtain ⟨hfilters,hplain⟩ := call.queues_after s
  exact ⟨(call.schema_after s).trans h.schema_eq,(call.spec_after s).trans h.spec_eq,
    hfilters.trans h.filters,hplain.trans h.plain⟩

end
end Search

namespace Specification
variable {spec : Specification} {field : String} {role : Role}

lemma mem_named : field ∈ spec.named role ↔ ⟨field,role⟩ ∈ spec.fields := by
  simp only [named,List.mem_map,List.mem_filter,beq_iff_eq]
  constructor
  · rintro ⟨⟨name,role'⟩,⟨hmem,rfl⟩,rfl⟩
    exact hmem
  · intro h
    exact ⟨⟨field,role⟩,⟨h,rfl⟩,rfl⟩

section
variable (distinct : (spec.fields.map FieldDescriptor.name).Nodup)
include distinct

lemma nodup_named (role : Role) : (spec.named role).Nodup :=
  distinct.sublist (List.filter_sublist.map _)

/-- Under distinct names a field has one descriptor. -/
lemma eq_of_name_eq {d e : FieldDescriptor} (hd : d ∈ spec.fields) (he : e ∈ spec.fields)
    (h : d.name = e.name) : d = e := List.inj_on_of_nodup_map distinct hd he h

lemma descriptor?_eq {d : FieldDescriptor} (hd : d ∈ spec.fields) :
    spec.descriptor? d.name = some d := (find?_eq_some_iff distinct).2 ⟨hd,rfl⟩

/-- Configuring a filter field asks for what the closure makes of its filter. -/
lemma chosen?_eq (declared : ⟨field,.filter⟩ ∈ spec.fields) {f : Filter}
    (set : spec.setting field = .filter f) (active : f.isActive = true)
    (choose : Configuration → Except SearchError FieldOverride) :
    spec.chosen? field choose = (choose (.start field f)).map FieldOverride.predicate? := by
  have hd := descriptor?_eq distinct declared
  have hf := (Setting.activeFilter?_eq_some_iff _ f).2 ⟨set,active⟩
  simp only [chosen?,hd,hf,if_true]

end
end Specification

namespace Configuration

variable {schema : Schema}

lemma foldlM_mapTo (targets : List String) (c : Configuration)
    (h : ∀ target ∈ targets, schema.checkSelector target c.filter = .ok ()) :
    targets.foldlM (fun c target => mapTo c schema target) c =
      .ok { c with targets := c.targets ++ targets } := by
  induction targets generalizing c with
  | nil => rw [List.append_nil]; rfl
  | cons target targets ih =>
    have hhead := mapTo_eq_ok_iff.2 ⟨h target (by simp),rfl⟩
    rw [List.foldlM_cons,hhead]
    have hrest := ih { c with targets := c.targets ++ [target] }
      fun other hother => h other (by simp [hother])
    rw [List.append_assoc] at hrest
    exact hrest

/-- Targets that take the filter are asked for its predicates, in order. -/
lemma mapAll_start (mode : ApplyMode) (field : String) {f : Filter} {targets : List String}
    (h : ∀ target ∈ targets, schema.checkSelector target f = .ok ()) :
    mapAll schema targets mode (start field f) =
      .ok ⟨field,mode.combine (targets.filterMap f.predicate?)⟩ := by
  rw [mapAll,foldlM_mapTo targets (start field f) h]
  rfl

end Configuration

/-- Searching several fields collects the same predicates as mapping to them. -/
lemma MultiSearch.foldlM_on {σ : Type} {targets : List String} (m : MultiSearch σ)
    (active : m.filter.isActive = true)
    (h : ∀ target ∈ targets, m.schema.checkSelector target m.filter = .ok ()) :
    targets.foldlM on m =
      .ok { m with predicates := m.predicates ++ targets.filterMap m.filter.predicate? } := by
  induction targets generalizing m with
  | nil => rw [List.filterMap_nil,List.append_nil]; rfl
  | cons target targets ih =>
    have hon : m.on target =
        .ok { m with predicates := m.predicates ++ (m.filter.predicate? target).toList } := by
      rw [on,if_pos active,h target (by simp)]
      rfl
    have hrest := ih { m with predicates := m.predicates ++ (m.filter.predicate? target).toList }
      active fun other hother => h other (by simp [hother])
    rw [List.foldlM_cons,hon]
    refine hrest.trans ?_
    cases hp : m.filter.predicate? target <;> simp [hp]

namespace Search

/-- Two searches whose runs through some calls differ in what happens at one filter field and
nowhere else: there, and once, the second is narrowed by a transform. -/
structure DifferAt {σ : Type} [Source σ] (field : String) (t : Transform σ)
    (later : List (Call σ)) (s s' : Search σ) : Prop where
  left : s.outcome later = replay (s.trace later) s.source
  right : s'.outcome later = replay ((s.trace later).map (Event.replace field t)) s.source
  once : ((s.trace later).map Event.site).count (.field ⟨field,.filter⟩) = 1

section
variable {σ : Type} [Source σ] {schema : Schema} {spec : Specification} {s : Search σ}
  {field : String} {later : List (Call σ)}

/-- A filter field that nothing overrides and that has no fault takes its own filter. -/
lemma Follows.transform_eq_ok (h : s.Follows schema spec) {f : Filter}
    (set : spec.setting field = .filter f) (active : f.isActive = true)
    (free : s.overrides.find? field = none) {t : Transform σ}
    (ht : s.transform ⟨field,.filter⟩ = .ok t) :
    schema.checkSelector field f = .ok () ∧
      t = Step.applyAll ((f.predicate? field).map Step.filter).toList := by
  have hf := (Setting.activeFilter?_eq_some_iff _ f).2 ⟨set,active⟩
  simp only [transform,override?,free,Specification.step?,h.spec_eq,h.schema_eq,hf,
    map_eq_ok_iff,Schema.filterPredicate_eq_ok_iff] at ht
  obtain ⟨_,⟨_,⟨htakes,rfl⟩,rfl⟩,rfl⟩ := ht
  exact ⟨(schema.checkSelector_eq_ok_iff field f).2 htakes,rfl⟩

section
variable (distinct : (spec.fields.map FieldDescriptor.name).Nodup)
include distinct

/-- Overriding a filter field that waits is local to it. -/
lemma Follows.differAt (h : s.Follows schema spec) (waits : field ∈ s.filters) (t : Transform σ)
    (hlater : ∀ call ∈ later, call.overridden? ≠ some field) :
    DifferAt field t later s (s.withOverride field t) := by
  have declared := Specification.mem_named.1 (h.filters.subset waits)
  -- The name is that of the filter field, so no plain field looks its override up.
  have hplain : field ∉ s.plain := by
    intro hmem
    have other := Specification.mem_named.1 (h.plain.subset hmem)
    have heq := Specification.eq_of_name_eq distinct declared other rfl
    cases heq
  have htrace := trace_overrides hlater (s.overrides.replaces_insert field t) hplain
  refine ⟨outcome_eq_replay later s s.source,?_,?_⟩
  · rw [← htrace]
    exact outcome_eq_replay later (s.withOverride field t) s.source
  · rw [count_trace]
    exact List.count_eq_one_of_mem ((Specification.nodup_named distinct _).sublist h.filters) waits

/-- Configuring a filter field whose filter is active overrides it by what its targets ask. -/
lemma Follows.configure_mapAll (h : s.Follows schema spec) (waits : field ∈ s.filters)
    {f : Filter} (set : spec.setting field = .filter f) (active : f.isActive = true)
    (mode : ApplyMode) {targets : List String}
    (accepted : ∀ target ∈ targets, schema.checkSelector target f = .ok ()) :
    s.configure field (Configuration.mapAll schema targets mode) =
      .ok (s.configured field (mode.combine (targets.filterMap f.predicate?))) := by
  have declared := Specification.mem_named.1 (h.filters.subset waits)
  rw [configure_eq,h.spec_eq,Specification.chosen?_eq distinct declared set active,
    Configuration.mapAll_start mode field accepted]
  rfl

/-- A search that succeeds has applied each filter field that waited. -/
lemma Follows.transform_of_outcome (h : s.Follows schema spec) (waits : field ∈ s.filters)
    (hlater : ∀ call ∈ later, call.overridden? ≠ some field) {found : σ}
    (hfound : s.outcome later = .ok found) : ∃ t, s.transform ⟨field,.filter⟩ = .ok t := by
  have visits := h.differAt distinct waits id hlater
  rw [visits.left] at hfound
  have visited : Site.field ⟨field,.filter⟩ ∈ (s.trace later).map Event.site := by
    rw [← List.count_pos_iff,visits.once]
    exact Nat.one_pos
  obtain ⟨e,he,hsite⟩ := List.mem_map.1 visited
  rw [← effect_of_mem_trace hlater he hsite]
  exact effect_of_replay_eq_ok hfound e he

/-- Overriding a filter field by what it does anyway changes nothing. -/
lemma Follows.outcome_withOverride_of_same (h : s.Follows schema spec) (waits : field ∈ s.filters)
    (hlater : ∀ call ∈ later, call.overridden? ≠ some field) {t : Transform σ}
    (ht : s.transform ⟨field,.filter⟩ = .ok t) :
    (s.withOverride field t).outcome later = s.outcome later := by
  have hlocal := h.differAt distinct waits t hlater
  have hsame : (s.trace later).map (Event.replace field t) = s.trace later := by
    apply map_replace_of_same
    intro e he hsite
    rw [effect_of_mem_trace hlater he hsite,ht]
  rw [hlocal.right,hsame,hlocal.left]

end
end

/-- Configuring a filter field before its phase is local. However the search came about and however
it goes on, there is one event at the field, in its place, and there the plan gets the combined
predicate of the targets, which is also what searching the targets collects; all other events stay.
Mapping the field to itself leaves what a search finds as it is. -/
theorem configure_local {schema : Schema} {spec : Specification} {plan : Plan}
    {applyAll paging : Bool} {calls : List (Call Plan)} {s : Search Plan} {field : String}
    {f : Filter} (distinct : (spec.fields.map FieldDescriptor.name).Nodup)
    (reached : Call.runAll calls (start plan schema spec applyAll paging) = .ok s)
    (waits : field ∈ s.filters) (set : spec.setting field = .filter f)
    (active : f.isActive = true) :
    (∀ (mode : ApplyMode) (targets : List String),
      (∀ target ∈ targets, schema.checkSelector target f = .ok ()) →
      (∃ target ∈ targets, f.predicate? target ≠ none) →
      ∃ p s', mode.combine (targets.filterMap f.predicate?) = some p ∧
        (targets.foldlM MultiSearch.on (MultiSearch.start plan schema f mode)).map
          MultiSearch.predicate? = .ok (some p) ∧
        s.configure field (Configuration.mapAll schema targets mode) = .ok s' ∧
        ∀ later, (∀ call ∈ later, call.overridden? ≠ some field) →
          DifferAt field (Plan.push · (.filter p)) later s s' ∧
          ((∀ call ∈ calls ++ later, call.AppendsOnly) →
            ∀ e ∈ s.trace later, ∀ t, e.effect = .ok t → Plan.Appends t)) ∧
    ∀ (mode : ApplyMode) (later : List (Call Plan)) (found : Plan),
      (∀ call ∈ later, call.overridden? ≠ some field) → s.overrides.find? field = none →
      s.outcome later = .ok found →
      ∃ s', s.configure field (Configuration.mapAll schema [field] mode) = .ok s' ∧
        s'.outcome later = .ok found := by
  have follows : s.Follows schema spec := by
    apply foldlM_induction _ (follows_start plan schema spec applyAll paging) reached
    intro call _ s t hs ht
    exact hs.run ht
  constructor
  · intro mode targets accepted builds
    have hne : targets.filterMap f.predicate? ≠ [] := by
      obtain ⟨target,hmem,hbuilds⟩ := builds
      obtain ⟨q,hq⟩ := Option.ne_none_iff_exists'.1 hbuilds
      exact List.ne_nil_of_mem (List.mem_filterMap.2 ⟨target,hmem,hq⟩)
    obtain ⟨p,hp⟩ := mode.combine_ne_none hne
    have hconfigure := follows.configure_mapAll distinct waits set active mode accepted
    rw [hp] at hconfigure
    refine ⟨p,_,hp,?_,hconfigure,?_⟩
    · rw [MultiSearch.foldlM_on _ active accepted]
      exact congrArg Except.ok hp
    · intro later hlater
      refine ⟨follows.differAt distinct waits _ hlater,?_⟩
      intro happends
      have appends : s.AppendsOnly := by
        apply foldlM_induction _ _ reached
        · intro call hmem s t hs ht
          obtain ⟨source,rfl⟩ := call.run_eq_ok ht
          exact hs.after (happends call (List.mem_append_left _ hmem))
        · intro other t ht
          cases ht
      exact appends.trace fun call hmem => happends call (List.mem_append_right _ hmem)
  · intro mode later found hlater free hfound
    obtain ⟨t,ht⟩ := follows.transform_of_outcome distinct waits hlater hfound
    obtain ⟨accepted,rfl⟩ := follows.transform_eq_ok set active free ht
    have self : ∀ target ∈ [field], schema.checkSelector target f = .ok () := by
      intro target hmem
      rwa [List.mem_singleton.1 hmem]
    refine ⟨_,follows.configure_mapAll distinct waits set active mode self,?_⟩
    cases hp : f.predicate? field with
    | none =>
      have hnone : mode.combine ([field].filterMap f.predicate?) = none := by
        rw [List.filterMap_cons_none hp]
        cases mode <;> rfl
      rw [hnone]
      exact hfound
    | some p =>
      have hsome : mode.combine ([field].filterMap f.predicate?) = some p := by
        rw [List.filterMap_cons_some hp]
        exact mode.combine_singleton p
      rw [hp] at ht
      rw [hsome,← hfound]
      exact follows.outcome_withOverride_of_same distinct waits hlater ht

theorem configure_local_rooms :
    Call.runAll [Rooms.mapOn] Rooms.search = .ok Rooms.mapped ∧
      (∃ s', Rooms.mapped.configure "lit"
          (Configuration.mapAll Rooms.schema ["heated","lit"] .or) = .ok s' ∧
        DifferAt "lit" (Plan.push · (.filter Rooms.heatedOrLit)) [.withPaging] Rooms.mapped s') ∧
      ∃ s', Rooms.mapped.configure "lit" (Configuration.mapAll Rooms.schema ["lit"] .or) = .ok s' ∧
        s'.outcome [] =
          .ok ⟨[.filter Rooms.heatedOrLit,.filter (.compare "lit" .eq (.bool true))]⟩ := by
  have reached : Call.runAll [Rooms.mapOn] Rooms.search = .ok Rooms.mapped := rfl
  have waits : "lit" ∈ Rooms.mapped.filters := by decide
  have accepted : ∀ target ∈ ["heated","lit"],
      Rooms.schema.checkSelector target Rooms.isSet = .ok () := by
    intro target hmem
    simp only [List.mem_cons,List.not_mem_nil,or_false] at hmem
    obtain rfl | rfl := hmem <;> rfl
  have later : ∀ call ∈ [(.withPaging : Call Plan)], call.overridden? ≠ some "lit" := by
    intro call hmem
    rw [List.mem_singleton.1 hmem]
    exact Option.some_ne_none _ |>.symm
  obtain ⟨hmap,hself⟩ := configure_local (by decide) reached waits rfl rfl
  refine ⟨reached,?_,?_⟩
  · obtain ⟨p,s',hp,-,hs',hlocal⟩ := hmap .or ["heated","lit"] accepted
      ⟨"lit",by decide,Option.some_ne_none _⟩
    cases hp
    exact ⟨s',hs',(hlocal [.withPaging] later).1⟩
  · exact hself .or [] _ (by simp) rfl rfl

end Search
end RecordSearch

import RecordSearch.Proofs.Invariants

/-! Kinds in plans. Whatever way a provided filter or a plain value takes into a plan, through the
phases of a search, a configuration, or a search of one or of several fields, it is put only on
fields of its kind. -/
namespace RecordSearch

namespace Plan

/-- Every predicate of a plan tests fields by their declared kinds. -/
def WellKinded (schema : Schema) (plan : Plan) : Prop := ∀ p ∈ plan.predicates, p.WellKinded schema

/-- The tests of a plan fit the schema, and on a record that agrees with the schema they meet only
values of the kinds they compare with. -/
def KindSafe (schema : Schema) (plan : Plan) : Prop :=
  ∀ p ∈ plan.predicates, ∀ leaf ∈ p.leaves, leaf.Fits schema ∧
    ∀ (ρ : Type) [Record ρ] (r : ρ), schema.Describes r → leaf.Meets schema r

variable {schema : Schema} {plan : Plan}

lemma WellKinded.kindSafe (h : plan.WellKinded schema) : plan.KindSafe schema := by
  intro p hp leaf hleaf
  have hfits := h p hp leaf hleaf
  exact ⟨hfits,fun ρ _ r hr => hfits.meets hr⟩

lemma KindSafe.wellKinded (h : plan.KindSafe schema) : plan.WellKinded schema :=
  fun p hp leaf hleaf => (h p hp leaf hleaf).1

@[simp] lemma wellKinded_empty : empty.WellKinded schema := by
  intro p hp
  simp [empty,predicates] at hp

lemma WellKinded.of_extends {plan' : Plan} (h : plan.WellKinded schema)
    (hadded : plan.Extends (·.WellKinded schema) plan') : plan'.WellKinded schema := by
  obtain ⟨steps,hsteps,hwell⟩ := hadded
  intro p hp
  rw [predicates,hsteps,List.filterMap_append,List.mem_append] at hp
  rcases hp with hp | hp
  · exact h p hp
  · obtain ⟨step,hstep,he⟩ := List.mem_filterMap.1 hp
    cases step with
    | filter q => cases he; exact hwell p hstep
    | skip n => cases he
    | take n => cases he

end Plan

namespace Configuration

/-- The configurations that come from one by mapping it to record fields. -/
inductive Maps (schema : Schema) (c : Configuration) : Configuration → Prop
  | refl : Maps schema c c
  | mapTo {d e target} (before : Maps schema c d) (h : d.mapTo schema target = .ok e) :
      Maps schema c e

/-- All targets of a mapped configuration take its filter, which mapping does not change. -/
lemma Maps.takes {schema : Schema} {c d : Configuration} (h : Maps schema c d)
    (hc : ∀ target ∈ c.targets, schema.Takes target c.filter) :
    d.filter = c.filter ∧ ∀ target ∈ d.targets, schema.Takes target c.filter := by
  induction h with
  | refl => exact ⟨rfl,hc⟩
  | @mapTo d e target _ h ih =>
    obtain ⟨hfilter,htargets⟩ := ih
    obtain ⟨haccepts,rfl⟩ := mapTo_eq_ok_iff.1 h
    have htakes := (schema.checkSelector_eq_ok_iff target d.filter).1 haccepts
    refine ⟨hfilter,?_⟩
    intro other hother
    rcases List.mem_append.1 hother with hmem | hmem
    · exact htargets other hmem
    · rw [List.mem_singleton.1 hmem,← hfilter]
      exact htakes

/-- Mapping to one target after the other is mapping. -/
lemma maps_of_foldlM {schema : Schema} {targets : List String} {c d : Configuration}
    (h : targets.foldlM (fun c target => mapTo c schema target) c = .ok d) : Maps schema c d := by
  apply foldlM_induction _ Maps.refl h
  intro target _ b b' hb hb'
  exact .mapTo hb hb'

end Configuration

/-- A call that overrides a field, if it does, only by mapping the configuration it is given and
combining what comes of it. -/
def Call.MapsOwn (schema : Schema) : Call Plan → Prop
  | .configure _ choose => ∀ c o, choose c = .ok o →
      ∃ d mode, Configuration.Maps schema c d ∧ o = d.withMode mode
  | .withOverride _ _ => False
  | _ => True

lemma Call.mapsOwn_mapAll (schema : Schema) (field : String) (targets : List String)
    (mode : ApplyMode) :
    (Call.configure field (Configuration.mapAll schema targets mode)).MapsOwn schema := by
  intro c o h
  obtain ⟨d,hd,rfl⟩ := map_eq_ok_iff.1 h
  exact ⟨d,mode,Configuration.maps_of_foldlM hd,rfl⟩

lemma Schema.ensures_wellKinded (schema : Schema) : schema.Ensures (·.WellKinded schema) where
  asked hf htakes hp := hf.wellKinded htakes hp
  equality hkind := (Predicate.wellKinded_compare _ _ _).2 hkind
  combine h hps := Predicate.wellKinded_of_combine h hps

/-- What a configuration comes to tests fields that take the filter it was given for. -/
lemma Call.MapsOwn.keeps {schema : Schema} {call : Call Plan} (h : call.MapsOwn schema)
    {spec : Specification} (provided : ∀ field f, spec.setting field = .filter f → f.Provided)
    (plan : Plan) : call.Keeps (plan.Extends (·.WellKinded schema)) spec := by
  cases call with
  | withOverride field t => exact h.elim
  | configure field choose =>
    refine Call.keeps_configure schema.ensures_wellKinded ?_ plan
    intro f o hset ho
    obtain ⟨d,mode,hmaps,rfl⟩ := h _ o ho
    obtain ⟨hfilter,htakes⟩ := hmaps.takes (by simp [Configuration.start])
    refine ⟨d,mode,rfl,?_⟩
    intro target hmem p hp
    rw [hfilter] at hp
    exact (provided field f hset).wellKinded (htakes target hmem) hp
  | _ => trivial

/-- From the empty plan on, every way into a plan is kind safe: any run of calls on a search whose
filters are provided and whose configurations map themselves, finished or not, and the search of
one or of several fields by a provided filter. -/
theorem kindSafe_of_provided {schema : Schema} {spec : Specification}
    (provided : ∀ field f, spec.setting field = .filter f → f.Provided) :
    Plan.empty.KindSafe schema ∧ ∀ plan : Plan, plan.KindSafe schema →
      (∀ (calls : List (Call Plan)) (applyAll paging : Bool) (s : Search Plan),
        (∀ call ∈ calls, call.MapsOwn schema) →
        Call.runAll calls (Search.start plan schema spec applyAll paging) = .ok s →
        s.source.KindSafe schema ∧ ∀ found, s.finish = .ok found → found.KindSafe schema) ∧
      (∀ (f : Filter) (field : String) (found : Plan), f.Provided →
        Source.searchField schema field f plan = .ok found → found.KindSafe schema) ∧
      ∀ (f : Filter) (mode : ApplyMode) (fields : List String) (m : MultiSearch Plan), f.Provided →
        fields.foldlM MultiSearch.on (MultiSearch.start plan schema f mode) = .ok m →
        m.apply.KindSafe schema := by
  refine ⟨Plan.wellKinded_empty.kindSafe,?_⟩
  intro plan safe
  have hwell := schema.ensures_wellKinded
  have hadded : ∀ {plan' : Plan}, plan.Extends (·.WellKinded schema) plan' →
      plan'.KindSafe schema := fun h => (safe.wellKinded.of_extends h).kindSafe
  refine ⟨?_,?_,?_⟩
  · intro calls applyAll paging s hcalls hrun
    have hkeeps : ∀ call ∈ calls, call.Keeps (plan.Extends (·.WellKinded schema)) spec :=
      fun call hmem => (hcalls call hmem).keeps provided plan
    obtain ⟨hs,hfinish⟩ := Search.extends_runAll hwell provided hkeeps hrun
    exact ⟨hadded hs,fun found hfound => hadded (hfinish found hfound)⟩
  · intro f field found hf h
    exact hadded (Source.extends_searchField hwell hf h)
  · intro f mode fields m hf h
    exact hadded (MultiSearch.extends_apply hwell hf h)

theorem kindSafe_rooms :
    (∀ field f, Rooms.spec.setting field = .filter f → f.Provided) ∧
      Plan.KindSafe Rooms.schema
        ⟨[.filter Rooms.heatedOrLit,.filter (.compare "lit" .eq (.bool true))]⟩ := by
  have hcalls : ∀ call ∈ [Rooms.mapOn], call.MapsOwn Rooms.schema := by
    intro call hmem
    rw [List.mem_singleton.1 hmem]
    exact Call.mapsOwn_mapAll _ _ _ _
  obtain ⟨hempty,hplan⟩ : Plan.empty.KindSafe Rooms.schema ∧ _ :=
    kindSafe_of_provided Rooms.provided_spec
  have hrun := (hplan _ hempty).1 [Rooms.mapOn] false false _ hcalls rfl
  exact ⟨Rooms.provided_spec,hrun.2 _ rfl⟩

end RecordSearch

import RecordSearch.Proofs.Overriding
import RecordSearch.Proofs.Rearrangement

/-! The order of declaration. Specifications that declare the same fields in another order make
searches that go together: each call fails on both or leaves searches whose queues hold the same
fields, so the same records are found. -/
namespace RecordSearch

namespace Specification

/-- The same fields in any order, with distinct names and the same settings. -/
structure Permutes (spec spec' : Specification) : Prop where
  fields : spec.fields.Perm spec'.fields
  distinct : (spec.fields.map FieldDescriptor.name).Nodup
  setting : ∀ d ∈ spec.fields, spec.setting d.name = spec'.setting d.name

namespace Permutes
variable {spec spec' : Specification}

lemma symm (h : spec.Permutes spec') : spec'.Permutes spec where
  fields := h.fields.symm
  distinct := (h.fields.map _).nodup_iff.1 h.distinct
  setting d hd := (h.setting d (h.fields.mem_iff.2 hd)).symm

lemma named (h : spec.Permutes spec') (role : Role) : (spec.named role).Perm (spec'.named role) :=
  (h.fields.filter _).map _

/-- A name has the same descriptor. -/
lemma descriptor?_eq (h : spec.Permutes spec') (field : String) :
    spec.descriptor? field = spec'.descriptor? field := by
  ext d
  rw [descriptor?,descriptor?,find?_eq_some_iff h.distinct,find?_eq_some_iff h.symm.distinct,
    h.fields.mem_iff]

/-- Configuring a field asks for the same. -/
lemma chosen?_eq (h : spec.Permutes spec') (field : String)
    (choose : Configuration → Except SearchError FieldOverride) :
    spec.chosen? field choose = spec'.chosen? field choose := by
  rw [chosen?,chosen?,← h.descriptor?_eq field]
  cases hd : spec.descriptor? field with
  | none => rfl
  | some d =>
    obtain ⟨hmem,rfl⟩ := of_find?_eq_some hd
    rw [h.setting d hmem]

/-- A declared field asks for the same. -/
lemma asks_eq (h : spec.Permutes spec') (schema : Schema) (written : String → Option (List Step))
    {d : FieldDescriptor} (hd : d ∈ spec.fields) :
    spec.asks schema written d = spec'.asks schema written d := by
  have hstep : spec.step? schema d = spec'.step? schema d := by
    rw [step?,step?,h.setting d hd]
  rw [asks,asks,hstep]

end Permutes
end Specification

lemma Rearranged.flatMap {α : Type} {f g : α → List FieldDescriptor}
    (h : ∀ a, Rearranged (f a) (g a)) (as : List α) : Rearranged (as.flatMap f) (as.flatMap g) := by
  induction as with
  | nil => exact .refl _
  | cons a as ih => exact .append (h a) ih

namespace Search
variable {ρ : Type} [Record ρ]

/-- Searches that are the same but for the order in which fields are declared and wait, and for
how they came to select the records that they do. -/
structure Reordered (s s' : Search (Records ρ)) : Prop where
  spec : s.spec.Permutes s'.spec
  schema : s.schema = s'.schema
  overrides : s.overrides = s'.overrides
  applyAll : s.applyAll = s'.applyAll
  paging : s.paging = s'.paging
  queue : ∀ role, (s.queue role).Perm (s'.queue role)
  declared : ∀ role, ∀ field ∈ s.queue role, ⟨field,role⟩ ∈ s.spec.fields
  source : s.source.toList = s'.source.toList

lemma reordered_start {spec spec' : Specification} (h : spec.Permutes spec')
    (source : Records ρ) (schema : Schema) (applyAll paging : Bool) :
    (start source schema spec applyAll paging).Reordered
      (start source schema spec' applyAll paging) := by
  refine ⟨h,rfl,rfl,rfl,rfl,?_,?_,rfl⟩
  · intro role
    simpa using h.named role
  · intro role field hmem
    rw [queue_start] at hmem
    exact Specification.mem_named.1 hmem

namespace Reordered
variable {s s' : Search (Records ρ)}

lemma symm (h : s.Reordered s') : s'.Reordered s where
  spec := h.spec.symm
  schema := h.schema.symm
  overrides := h.overrides.symm
  applyAll := h.applyAll.symm
  paging := h.paging.symm
  queue role := (h.queue role).symm
  declared role field hmem :=
    h.spec.fields.mem_iff.1 (h.declared role field ((h.queue role).mem_iff.2 hmem))
  source := h.source.symm

/-- Phases go through the same fields, role by role. -/
lemma waiting (h : s.Reordered s') (p : Phases) : Rearranged (s.waiting p) (s'.waiting p) := by
  rw [waiting_eq_flatMap,waiting_eq_flatMap]
  apply Rearranged.flatMap
  intro role
  have hvisits : s'.visits p role = s.visits p role := by
    cases role with
    | plain => exact congrArg (p.plain && ·) h.applyAll.symm
    | _ => rfl
  refine .block ?_ fun a ha b hb => ?_
  · rw [visited,visited,hvisits]
    split_ifs
    · exact (h.queue role).map _
    · exact .refl _
  · rw [(mem_visited.1 ha).1,(mem_visited.1 hb).1]

/-- Narrowing by what waits selects the same. -/
lemma sameSelection_narrow (h : s.Reordered s') (hs : s.Configured) (p : Phases) :
    SameSelection (s.narrow (s.waiting p) s.source) (s'.narrow (s'.waiting p) s'.source) := by
  obtain ⟨written,hwrites,hone⟩ := hs
  have hwrites' := hwrites
  rw [h.overrides] at hwrites'
  refine Search.sameSelection_narrow hwrites hwrites' hone (h.waiting p) ?_ h.source
  intro d hd
  rw [← h.schema]
  exact h.spec.asks_eq s.schema written (h.declared _ _ (mem_waiting.1 hd).2)

lemma finish (h : s.Reordered s') (hs : s.Configured) : SameSelection s.finish s'.finish := by
  rw [finish_eq_narrow,finish_eq_narrow,pending,pending,← h.paging]
  exact h.sameSelection_narrow hs _

lemma drained (h : s.Reordered s') (p : Phases) {found found' : Records ρ}
    (hfound : found.toList = found'.toList) :
    (s.drained p found).Reordered (s'.drained p found') := by
  refine ⟨h.spec,h.schema,h.overrides,h.applyAll,h.paging,?_,?_,hfound⟩
  · intro role
    rw [queue_drained,queue_drained]
    split_ifs
    · exact .refl _
    · exact h.queue role
  · intro role field hmem
    rw [queue_drained] at hmem
    split_ifs at hmem
    · cases hmem
    · exact h.declared role field hmem

lemma withOverride (h : s.Reordered s') (field : String) (t : Transform (Records ρ)) :
    (s.withOverride field t).Reordered (s'.withOverride field t) where
  __ := h
  overrides := congrArg (·.insert field t) h.overrides

/-- A call that succeeds on one of the searches succeeds on the other. -/
lemma run (h : s.Reordered s') (hs : s.Configured) {call : Call (Records ρ)}
    (hc : call.ConfiguresOnly) {t : Search (Records ρ)} (ht : call.run s = .ok t) :
    ∃ t', call.run s' = .ok t' ∧ t.Reordered t' := by
  cases call using Call.phaseCases with
  | phases call p hp =>
    rw [Call.run_of_phases? hp,drain,map_eq_ok_iff] at ht
    obtain ⟨found,hfound,rfl⟩ := ht
    have hsame := (h.sameSelection_narrow hs p found.toList).1 (by rw [hfound]; rfl)
    obtain ⟨found',hfound',hlist⟩ := map_eq_ok_iff.1 hsame
    rw [Call.run_of_phases? hp,drain,hfound']
    exact ⟨_,rfl,h.drained p hlist.symm⟩
  | allowAllProperties => cases ht; exact ⟨_,rfl,{ h with applyAll := rfl }⟩
  | withPaging => cases ht; exact ⟨_,rfl,{ h with paging := rfl }⟩
  | withOverride field t => exact hc.elim
  | configure field choose =>
    change s.configure field choose = _ at ht
    rw [configure_eq,map_eq_ok_iff] at ht
    obtain ⟨p?,hp?,rfl⟩ := ht
    rw [h.spec.chosen?_eq] at hp?
    change ∃ t', s'.configure field choose = _ ∧ _
    rw [configure_eq,hp?]
    refine ⟨_,rfl,?_⟩
    cases p? with
    | none => exact h
    | some p => exact h.withOverride field _

/-- A run that succeeds on one of the searches succeeds on the other. -/
lemma runAll (h : s.Reordered s') (hs : s.Configured) {calls : List (Call (Records ρ))}
    (hc : ∀ call ∈ calls, call.ConfiguresOnly) {t : Search (Records ρ)}
    (ht : Call.runAll calls s = .ok t) : ∃ t', Call.runAll calls s' = .ok t' ∧ t.Reordered t' := by
  induction calls generalizing s s' with
  | nil => cases ht; exact ⟨s',rfl,h⟩
  | cons call calls ih =>
    obtain ⟨u,hu,ht⟩ := Call.runAll_cons_eq_ok_iff.1 ht
    have hcall := hc call (by simp)
    obtain ⟨u',hu',h'⟩ := h.run hs hcall hu
    obtain ⟨t',ht',hlast⟩ := ih h' (hs.run hcall hu) (fun c hmem => hc c (by simp [hmem])) ht
    exact ⟨t',Call.runAll_cons_eq_ok_iff.2 ⟨u',hu',ht'⟩,hlast⟩

end Reordered

end Search

namespace Rooms

/-- The paged search, its fields declared the other way round. -/
def turnedSpec : Specification := { pagedSpec with fields := pagedSpec.fields.reverse }

def turnedSearch : Search (Records Room) := .start (.ofList wing) schema turnedSpec true true

end Rooms

namespace Search
variable {ρ : Type} [Record ρ]

/-- The order of declaration does not matter. Whatever phases have run and whatever has been
configured before finishing, the same calls succeed for specifications with the same fields, and
the two searches then both fail, perhaps for different reasons, or find the same records in the same
order. -/
theorem finish_of_permutes {spec spec' : Specification} (permuted : spec.Permutes spec')
    (source : Records ρ) (schema : Schema) (applyAll paging : Bool)
    {calls : List (Call (Records ρ))} (configured : ∀ call ∈ calls, call.ConfiguresOnly) :
    ((∃ s, Call.runAll calls (start source schema spec applyAll paging) = .ok s) ↔
      ∃ s', Call.runAll calls (start source schema spec' applyAll paging) = .ok s') ∧
    ∀ s s', Call.runAll calls (start source schema spec applyAll paging) = .ok s →
      Call.runAll calls (start source schema spec' applyAll paging) = .ok s' →
      SameSelection s.finish s'.finish := by
  have h := reordered_start permuted source schema applyAll paging
  have hs := configured_start source schema spec applyAll paging
  have hs' := configured_start source schema spec' applyAll paging
  refine ⟨⟨?_,?_⟩,?_⟩
  · rintro ⟨s,hrun⟩
    obtain ⟨s',hrun',-⟩ := h.runAll hs configured hrun
    exact ⟨s',hrun'⟩
  · rintro ⟨s',hrun'⟩
    obtain ⟨s,hrun,-⟩ := h.symm.runAll hs' configured hrun'
    exact ⟨s,hrun⟩
  · intro s s' hrun hrun'
    obtain ⟨t,ht,hlast⟩ := h.runAll hs configured hrun
    cases ht.symm.trans hrun'
    exact hlast.finish (hs.runAll configured hrun)

theorem finish_of_permutes_rooms :
    Rooms.pagedSpec.Permutes Rooms.turnedSpec ∧
      ∃ s s', Call.runAll [Rooms.mapOnRooms] Rooms.pagedSearch = .ok s ∧
        Call.runAll [Rooms.mapOnRooms] Rooms.turnedSearch = .ok s' ∧
        SameSelection s.finish s'.finish ∧
        s'.finish.map Records.toList = .ok [⟨true,true⟩] := by
  have permuted : Rooms.pagedSpec.Permutes Rooms.turnedSpec :=
    ⟨by decide,by decide,fun _ _ => rfl⟩
  have configured : ∀ call ∈ [Rooms.mapOnRooms], call.ConfiguresOnly := by
    simp [Rooms.mapOnRooms,Call.ConfiguresOnly]
  obtain ⟨-,hfinish⟩ := finish_of_permutes permuted (.ofList Rooms.wing) Rooms.schema true true
    configured
  exact ⟨permuted,_,_,rfl,rfl,hfinish _ _ rfl rfl,rfl⟩

end Search
end RecordSearch

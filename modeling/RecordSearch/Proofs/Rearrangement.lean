import Mathlib.Data.List.Basic
import RecordSearch.Proofs.Writing

/-! Fields in another order. Steps of one rank commute on the records, so narrowing by fields in
another order selects the same as long as predicates, skips and takes are not mixed; only the error
may be another one. The main statement is that phases may be run ahead of their time. -/
namespace RecordSearch

namespace Step
variable {ρ : Type} [Record ρ]

lemma apply_comm {a b : Step} (h : a.rank = b.rank) (rs : List ρ) :
    a.apply (b.apply rs) = b.apply (a.apply rs) := by
  cases a with
  | filter p =>
    obtain ⟨q,rfl⟩ := rank_eq_zero_iff.1 h.symm
    change (rs.filter _).filter _ = (rs.filter _).filter _
    rw [List.filter_filter,List.filter_filter]
    congr 1
    funext r
    exact Bool.and_comm _ _
  | skip n =>
    cases b with
    | skip m =>
      change (rs.drop m).drop n = (rs.drop n).drop m
      rw [List.drop_drop,List.drop_drop,Nat.add_comm]
    | _ => cases h
  | take n =>
    cases b with
    | take m =>
      change (rs.take m).take n = (rs.take n).take m
      rw [List.take_take,List.take_take,Nat.min_comm]
    | _ => cases h

/-- Steps of one rank may be taken in any order. -/
lemma applyAll_perm {xs ys : List Step} (h : xs.Perm ys)
    (hrank : ∀ a ∈ xs, ∀ b ∈ xs, a.rank = b.rank) (rs : List ρ) :
    applyAll xs rs = applyAll ys rs :=
  h.foldl_eq' (fun a ha b hb rs => apply_comm (hrank b hb a ha) rs) rs

end Step

/-- Lists of fields that differ only in the order of neighbours of one rank. -/
inductive Rearranged : List FieldDescriptor → List FieldDescriptor → Prop
  | refl (ds) : Rearranged ds ds
  | block {ds es} (perm : ds.Perm es) (hrank : ∀ a ∈ ds, ∀ b ∈ ds, a.role.rank = b.role.rank) :
      Rearranged ds es
  | append {ds es ds' es'} (front : Rearranged ds es) (back : Rearranged ds' es') :
      Rearranged (ds ++ ds') (es ++ es')

namespace Rearranged
variable {ds es : List FieldDescriptor}

lemma perm (h : Rearranged ds es) : ds.Perm es := by
  induction h with
  | refl ds => exact .refl ds
  | block perm _ => exact perm
  | append _ _ front back => exact front.append back

/-- What fields in another order give has the same effect on the records. -/
lemma applyAll_flatMap {ρ : Type} [Record ρ] {give : FieldDescriptor → List Step}
    (hgive : ∀ d, ∀ step ∈ give d, step.rank = d.role.rank) (h : Rearranged ds es) (rs : List ρ) :
    Step.applyAll (ds.flatMap give) rs = Step.applyAll (es.flatMap give) rs := by
  induction h generalizing rs with
  | refl ds => rfl
  | block perm hrank =>
    apply Step.applyAll_perm (perm.flatMap_right give)
    intro a ha b hb
    obtain ⟨d,hd,ha⟩ := List.mem_flatMap.1 ha
    obtain ⟨e,he,hb⟩ := List.mem_flatMap.1 hb
    rw [hgive d a ha,hgive e b hb,hrank d hd e he]
  | append _ _ front back =>
    rw [List.flatMap_append,List.flatMap_append,Step.applyAll_append,Step.applyAll_append,front,
      back]

end Rearranged

/-- Two outcomes select the same records in the same order, or both fail, for whatever reason. -/
def SameSelection {ρ : Type} [Record ρ] (x y : Except SearchError (Records ρ)) : Prop :=
  ∀ selected, x.map Records.toList = .ok selected ↔ y.map Records.toList = .ok selected

namespace SameSelection
variable {ρ : Type} [Record ρ] {x y z : Except SearchError (Records ρ)}

lemma refl (x : Except SearchError (Records ρ)) : SameSelection x x := fun _ => Iff.rfl

lemma trans (h : SameSelection x y) (h' : SameSelection y z) : SameSelection x z :=
  fun selected => (h selected).trans (h' selected)

lemma bind {α : Type} {x : Except SearchError α} {f g : α → Except SearchError (Records ρ)}
    (h : ∀ a, x = .ok a → SameSelection (f a) (g a)) : SameSelection (x >>= f) (x >>= g) := by
  cases x with
  | error e => exact refl _
  | ok a => exact h a rfl

end SameSelection

namespace Search
variable {ρ : Type} [Record ρ] {written : String → Option (List Step)}

/-- Narrowing by fields none of which has an error selects what their steps leave. -/
lemma narrow_selects_iff {s : Search (Records ρ)} (h : s.overrides.Writes written)
    (ds : List FieldDescriptor) (source : Records ρ) (selected : List ρ) :
    (s.narrow ds source).map Records.toList = .ok selected ↔
      (∀ d ∈ ds, s.spec.asks s.schema written d = .ok (s.spec.given s.schema written d)) ∧
        selected = Step.applyAll (ds.flatMap (s.spec.given s.schema written)) source.toList := by
  rw [narrow_of_writes h,map_eq_ok_iff]
  simp only [map_eq_ok_iff,Specification.collect_eq_ok_iff]
  constructor
  · rintro ⟨_,⟨steps,⟨hall,rfl⟩,rfl⟩,rfl⟩
    exact ⟨hall,Records.toList_applyAll _ source⟩
  · rintro ⟨hall,rfl⟩
    exact ⟨_,⟨_,⟨hall,rfl⟩,rfl⟩,Records.toList_applyAll _ source⟩

/-- Configured searches that ask the same of rearranged fields select the same from the same
records. -/
lemma sameSelection_narrow {s s' : Search (Records ρ)} (hs : s.overrides.Writes written)
    (hs' : s'.overrides.Writes written) (hone : Specification.OnePredicate written)
    {ds es : List FieldDescriptor} (h : Rearranged ds es)
    (asks : ∀ d ∈ ds, s.spec.asks s.schema written d = s'.spec.asks s'.schema written d)
    {source source' : Records ρ} (hsource : source.toList = source'.toList) :
    SameSelection (s.narrow ds source) (s'.narrow es source') := by
  intro selected
  have hgiven : ∀ d ∈ ds, s.spec.given s.schema written d = s'.spec.given s'.schema written d := by
    intro d hd
    rw [Specification.given,asks d hd,Specification.given]
  have heffect : Step.applyAll (ds.flatMap (s.spec.given s.schema written)) source.toList =
      Step.applyAll (es.flatMap (s'.spec.given s'.schema written)) source'.toList := by
    rw [List.flatMap_congr hgiven,hsource]
    exact h.applyAll_flatMap (fun d => (Specification.rank_of_given hone d).2) _
  rw [narrow_selects_iff hs,narrow_selects_iff hs',heffect]
  apply and_congr_left
  intro _
  constructor
  · intro hall d hd
    have hmem := h.perm.mem_iff.2 hd
    rw [← asks d hmem,← hgiven d hmem,hall d hmem]
  · intro hall d hd
    rw [asks d hd,hgiven d hd,hall d (h.perm.mem_iff.1 hd)]

end Search

/-- The calls that run phases ahead of their time. Skips may go ahead if paging is on. -/
def Call.Early {σ : Type} (paging : Bool) : Call σ → Prop
  | .applyFilters | .applyPlainFields => True
  | .applySkip => paging = true
  | _ => False

section
variable {σ : Type} {call : Call σ} {paging : Bool}

lemma Call.Early.configuresOnly (h : call.Early paging) : call.ConfiguresOnly := by
  cases call with
  | withOverride field t => exact h.elim
  | _ => trivial

lemma Call.Early.paging_after [Source σ] (h : call.Early paging) (s : Search σ) :
    (call.after s).paging = s.paging := by
  cases call with
  | withPaging => exact h.elim
  | _ => rfl

end

namespace Search

section
variable {σ : Type}

lemma rank_of_mem_predicates {s : Search σ} {d : FieldDescriptor} (h : d ∈ s.waiting .predicates) :
    d.role.rank = 0 := by
  obtain ⟨field,role⟩ := d
  cases role with
  | filter | plain => rfl
  | skip | take => exact absurd (mem_waiting.1 h).1 Bool.false_ne_true

/-- Phases that run early go through what finishing would, but plain fields may come before
filters. -/
lemma rearranged_early (s : Search σ) {call : Call σ} (h : call.Early s.paging) :
    ∃ p, call.phases? = some p ∧
      ∀ source, Rearranged (s.waiting p ++ (s.drained p source).pending) s.pending := by
  cases call with
  | applyFilters =>
    refine ⟨_,rfl,fun source => ?_⟩
    have heq : s.waiting { filters := true } ++ (s.drained { filters := true } source).pending =
        s.pending := by simp [pending_eq,waiting,drained,Phases.predicates]
    rw [heq]
    exact .refl _
  | applyPlainFields =>
    refine ⟨_,rfl,fun source => ?_⟩
    have heq : s.waiting { plain := true } ++ (s.drained { plain := true } source).pending =
        s.waiting { plain := true } ++ s.waiting { filters := true } ++
          if s.paging then s.waiting { skips := true, takes := true } else [] := by
      simp [pending_eq,waiting,drained,Phases.predicates]
    have hperm : (s.waiting { plain := true } ++ s.waiting { filters := true }).Perm
        (s.waiting .predicates) := by
      have hsplit : s.waiting .predicates =
          s.waiting { filters := true } ++ s.waiting { plain := true } := by
        simp [waiting,Phases.predicates]
      rw [hsplit]
      exact List.perm_append_comm
    rw [heq,pending_eq]
    refine .append (.block hperm fun a ha b hb => ?_) (.refl _)
    rw [rank_of_mem_predicates (hperm.subset ha),rank_of_mem_predicates (hperm.subset hb)]
  | applySkip =>
    have paging : s.paging = true := h
    refine ⟨_,rfl,fun source => ?_⟩
    have heq : s.waiting ⟨true,true,true,false⟩ ++
        (s.drained ⟨true,true,true,false⟩ source).pending = s.pending := by
      simp [pending_eq,waiting,drained,paging,Phases.predicates]
    rw [heq]
    exact .refl _
  | _ => exact h.elim

variable [Source σ]

/-- Phases and then finishing are one pass. -/
lemma drain_bind_finish (s : Search σ) (p : Phases) :
    s.drain p >>= finish = s.narrow (s.waiting p ++ (s.drained p s.source).pending) s.source := by
  rw [drain_bind,narrow_append]
  cases s.narrow (s.waiting p) s.source with
  | error e => rfl
  | ok source => exact finish_eq_narrow _

end

variable {ρ : Type} [Record ρ] {s : Search (Records ρ)}

/-- One phase ahead of its time. -/
lemma Configured.sameSelection_early (hs : s.Configured) {call : Call (Records ρ)}
    (h : call.Early s.paging) : SameSelection (call.run s >>= finish) s.finish := by
  obtain ⟨p,hp,hr⟩ := s.rearranged_early h
  obtain ⟨written,hwrites,hone⟩ := hs
  rw [Call.run_of_phases? hp,drain_bind_finish,finish_eq_narrow]
  exact sameSelection_narrow hwrites hwrites hone (hr s.source) (fun _ _ => rfl) rfl

/-- Running phases early does not change what a search finds. However a search has come about by
calls that override fields only by configuring them, phases that go ahead of finishing it, in any
order and any number of times, make it fail if and only if it fails without them, and select the
same records in the same order otherwise. -/
theorem finish_after_early_phases {schema : Schema} {spec : Specification} {source : Records ρ}
    {applyAll paging : Bool} {calls early : List (Call (Records ρ))}
    (configured : ∀ call ∈ calls, call.ConfiguresOnly)
    (reached : Call.runAll calls (start source schema spec applyAll paging) = .ok s)
    (ahead : ∀ call ∈ early, call.Early s.paging) : SameSelection (s.outcome early) s.finish := by
  have hs : s.Configured := (configured_start source schema spec applyAll paging).runAll configured
    reached
  clear reached
  induction early generalizing s with
  | nil => exact .refl _
  | cons call early ih =>
    rw [outcome_cons]
    refine SameSelection.trans (.bind ?_) (hs.sameSelection_early (ahead call (by simp)))
    intro t ht
    have hcall := ahead call (by simp)
    obtain ⟨found,rfl⟩ := call.run_eq_ok ht
    refine ih ?_ (hs.run hcall.configuresOnly ht)
    intro later hlater
    have hlater := ahead later (by simp [hlater])
    rwa [← hcall.paging_after s] at hlater

theorem finish_after_early_phases_rooms :
    ∃ s, Call.runAll [Rooms.mapOnRooms] Rooms.pagedSearch = .ok s ∧
      SameSelection (s.outcome [.applyPlainFields,.applyFilters,.applySkip,.applyPlainFields])
        s.finish ∧
      s.finish.map Records.toList = .ok [⟨true,true⟩] := by
  have reached : Call.runAll [Rooms.mapOnRooms] Rooms.pagedSearch =
      .ok (Rooms.pagedSearch.withOverride "on" (Source.filterBy Rooms.heatedOrLit)) := rfl
  refine ⟨_,reached,finish_after_early_phases ?_ reached ?_,rfl⟩
  · simp [Rooms.mapOnRooms,Call.ConfiguresOnly]
  · simp [Call.Early,Rooms.pagedSearch,start,withOverride]

end Search
end RecordSearch

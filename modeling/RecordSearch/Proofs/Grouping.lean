import Mathlib.Tactic.Common
import RecordSearch.Predicate

/-! Groups of predicates. Nothing groups to no predicate, and one predicate to itself; apart from
that a group holds as its members do, all of them or any. -/
namespace RecordSearch

lemma ApplyMode.combine_ne_none (mode : ApplyMode) {ps : List Predicate} (h : ps ≠ []) :
    ∃ p, mode.combine ps = some p := by
  rcases ps with _ | ⟨p,_ | ⟨q,ps⟩⟩
  · exact absurd rfl h
  · exact ⟨p,by cases mode <;> rfl⟩
  · cases mode with
    | and => exact ⟨.and (p::q::ps),rfl⟩
    | or => exact ⟨.or (p::q::ps),rfl⟩

lemma ApplyMode.combine_eq_none_iff (mode : ApplyMode) (ps : List Predicate) :
    mode.combine ps = none ↔ ps = [] := by
  constructor
  · intro h
    by_contra hne
    obtain ⟨p,hp⟩ := mode.combine_ne_none hne
    rw [hp] at h
    cases h
  · rintro rfl
    cases mode <;> rfl

@[simp] lemma ApplyMode.combine_singleton (mode : ApplyMode) (p : Predicate) :
    mode.combine [p] = some p := by cases mode <;> rfl

namespace Predicate

/-- What members have and a node of them takes over, a group of them has. Only two members or more
are made into a node. -/
lemma of_group? {P : Predicate → Prop} {node : List Predicate → Predicate} {ps : List Predicate}
    {p : Predicate} (hnode : 2 ≤ ps.length → (∀ q ∈ ps, P q) → P (node ps))
    (h : group? node ps = some p) (hps : ∀ q ∈ ps, P q) : P p := by
  rcases ps with _ | ⟨q,_ | ⟨q',qs⟩⟩
  · cases h
  · cases h
    exact hps _ (by simp)
  · cases h
    exact hnode (by simp) hps

section
variable {ρ : Type} [Record ρ] (r : ρ)

@[simp] lemma holds_negate (p : Predicate) : p.negate.holds r = !p.holds r := by
  cases p with
  | not p => rw [negate,holds_not,Bool.not_not]
  | _ => exact holds_not r _

/-- What stands for the group of nothing here holds as the members of that group do. -/
@[simp] lemma holds_all?_getD (ps : List Predicate) :
    ((all? ps).getD (and [])).holds r = ps.all (·.holds r) := by
  rcases ps with _ | ⟨p,_ | ⟨q,ps⟩⟩
  · exact holds_and r []
  · simp [all?,group?]
  · exact holds_and r (p::q::ps)

@[simp] lemma holds_any?_getD (ps : List Predicate) :
    ((any? ps).getD (or [])).holds r = ps.any (·.holds r) := by
  rcases ps with _ | ⟨p,_ | ⟨q,ps⟩⟩
  · exact holds_or r []
  · simp [any?,group?]
  · exact holds_or r (p::q::ps)

end

lemma isSome_all? (ps : List Predicate) : (all? ps).isSome = !ps.isEmpty := by
  rcases ps with _ | ⟨p,_ | ⟨q,ps⟩⟩ <;> rfl

/-- Something groups to a predicate that holds when all of it does. -/
lemma exists_all? {ps : List Predicate} (h : ps ≠ []) :
    ∃ p, all? ps = some p ∧ ∀ {ρ : Type} [Record ρ] (r : ρ), p.holds r = ps.all (·.holds r) := by
  obtain ⟨p,hp⟩ : ∃ p, all? ps = some p := ApplyMode.and.combine_ne_none h
  refine ⟨p,hp,?_⟩
  intro ρ _ r
  rw [← holds_all?_getD,hp,Option.getD_some]

end Predicate
end RecordSearch

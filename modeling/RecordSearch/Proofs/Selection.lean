import Mathlib.Algebra.GroupWithZero.Nat
import Mathlib.Tactic.Common
import RecordSearch.Source.Plan

/-! What steps select. A plan hands its records one at a time through all of its steps; the main
statement is that this selects what narrowing the list of records step by step does. Steps of one
sort then collapse: predicates to their conjunction, skips to their sum, takes to their least. -/
namespace RecordSearch

namespace Step

section
variable {σ : Type} [Source σ]

@[simp] lemma applyAll_nil (s : σ) : applyAll [] s = s := rfl

@[simp] lemma applyAll_cons (step : Step) (steps : List Step) (s : σ) :
    applyAll (step::steps) s = applyAll steps (step.apply s) := rfl

lemma applyAll_append (xs ys : List Step) (s : σ) :
    applyAll (xs ++ ys) s = applyAll ys (applyAll xs s) := List.foldl_append

end

/-- A plan records the steps it is narrowed by. -/
lemma applyAll_plan (steps : List Step) (p : Plan) : applyAll steps p = ⟨p.steps ++ steps⟩ := by
  induction steps generalizing p with
  | nil => simp
  | cons step steps ih =>
    cases step <;> simp [ih,apply,Source.filterBy,Source.skip,Source.take,Plan.push]

lemma applyAll_records {ρ : Type} (steps : List Step) (r : Records ρ) :
    applyAll steps r = ⟨r.items,applyAll steps r.plan⟩ := by
  induction steps generalizing r with
  | nil => rfl
  | cons step steps ih => cases step <;> exact ih _

variable {ρ : Type} [Record ρ]

lemma apply_nil (step : Step) : step.apply ([] : List ρ) = [] := by
  cases step with
  | filter p => rfl
  | skip n => exact List.drop_nil
  | take n => exact List.take_nil

lemma applyAll_empty (steps : List Step) : applyAll steps ([] : List ρ) = [] := by
  induction steps with
  | nil => rfl
  | cons step steps ih => rw [applyAll_cons,apply_nil,ih]

/-- Predicates keep what satisfies all of them. -/
lemma applyAll_filters (ps : List Predicate) (rs : List ρ) :
    applyAll (ps.map .filter) rs = rs.filter fun r => ps.all (·.holds r) := by
  induction ps generalizing rs with
  | nil => exact (List.filter_eq_self.2 fun _ _ => rfl).symm
  | cons p ps ih =>
    rw [List.map_cons,applyAll_cons,ih]
    change (rs.filter _).filter _ = _
    rw [List.filter_filter]
    congr 1
    funext r
    simp [Bool.and_comm]

/-- Skips add up, without a bound. -/
lemma applyAll_skips (counts : List Nat) (rs : List ρ) :
    applyAll (counts.map .skip) rs = rs.drop counts.sum := by
  induction counts generalizing rs with
  | nil => rfl
  | cons n counts ih =>
    rw [List.map_cons,applyAll_cons,ih,List.sum_cons]
    exact List.drop_drop

/-- Of several takes the least counts. -/
lemma applyAll_takes (counts : List Nat) (rs : List ρ) :
    applyAll (counts.map .take) rs = counts.min?.elim rs rs.take := by
  induction counts generalizing rs with
  | nil => rfl
  | cons n counts ih =>
    rw [List.map_cons,applyAll_cons,ih,List.min?_cons]
    cases h : counts.min? with
    | none => rfl
    | some m =>
      change (rs.take n).take m = rs.take (min n m)
      rw [List.take_take,Nat.min_comm]

end Step

namespace Plan
variable {ρ : Type} [Record ρ]

/-- What offering a record does to the selection: the steps for the records behind it select from
them what the whole plan does, and the record itself is in front if it passes. -/
lemma applyAll_cons_eq_offer (r : ρ) (steps : List Step) (rs : List ρ) :
    Step.applyAll steps (r::rs) =
      if (offer r steps).1 then r :: Step.applyAll (offer r steps).2 rs
      else Step.applyAll (offer r steps).2 rs := by
  induction steps generalizing rs with
  | nil => rfl
  | cons step steps ih =>
    rcases step with p | (_ | n) | (_ | n)
    · cases h : p.holds r with
      | false => simp [offer,h,Step.apply,Source.filterBy]
      | true => simpa [offer,h,Step.apply,Source.filterBy] using ih (rs.filter (p.holds ·))
    · exact ih rs
    · rfl
    · rfl
    · exact ih (rs.take n)

/-- Running a plan selects what its steps do one after the other. -/
theorem run_eq_applyAll (steps : List Step) (rs : List ρ) :
    run steps rs = Step.applyAll steps rs := by
  induction rs generalizing steps with
  | nil => exact (Step.applyAll_empty steps).symm
  | cons r rs ih =>
    rw [applyAll_cons_eq_offer,run]
    simp only [ih]

end Plan

namespace Records
variable {ρ : Type} [Record ρ]

lemma toList_applyAll (steps : List Step) (r : Records ρ) :
    (Step.applyAll steps r).toList = Step.applyAll steps r.toList := by
  rw [Step.applyAll_records,Step.applyAll_plan]
  simp only [toList,Plan.execute,Plan.run_eq_applyAll,Step.applyAll_append]

@[simp] lemma toList_ofList (rs : List ρ) : (ofList rs).toList = rs := by
  rw [toList,Plan.execute,Plan.run_eq_applyAll]
  rfl

end Records
end RecordSearch

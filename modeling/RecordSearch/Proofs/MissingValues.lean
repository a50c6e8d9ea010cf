import RecordSearch.Proofs.Clauses
import RecordSearch.Proofs.Comparison

/-! Missing values. Nothing can be said of a value that is not there, so a clause that asks for
something refuses it, and a clause that only rules something out admits it. -/
namespace RecordSearch

namespace Clause

/-- Clauses that rule something out, and the one that asks for nothing to be there. The others ask
for something: for equality or a place in the order, for a part of a text or a match, for a
discriminant of a list, for elements, or for text that is not empty. -/
def isNegative : Clause → Bool
  | compare op _ => op == .ne
  | text _ _ negated | pattern _ negated | contains _ _ negated => negated
  | nullOrEmpty yes => yes
  | oneOf _ => false
  | noneOf _ => true

lemma admits_missing (c : Clause) : c.admits .missing = c.isNegative := by
  cases c with
  | compare op operand => exact CompareOp.holds_missing op operand
  | text op needle negated => exact Bool.false_bne negated
  | pattern p negated => exact Bool.false_bne negated
  | nullOrEmpty yes => exact Bool.true_beq yes
  | oneOf ds =>
    rw [admits,isNegative,List.any_eq_false]
    intro d _
    rw [CompareOp.holds_missing]
    exact Bool.false_ne_true
  | noneOf ds =>
    rw [admits,isNegative,List.all_eq_true]
    intro d _
    rw [CompareOp.holds_missing]
    rfl
  | contains mode set negated => exact Bool.false_bne negated

end Clause

/-- A filter with a clause that is set has a predicate for every field, which holds of a record that
has no value there exactly if all clauses that are set are negative. One that is not makes it
fail. -/
theorem Filter.MadeOf.holds_of_missing {f : Filter} {slots : List (Option Clause)}
    (h : f.MadeOf slots) (set : slots.any Option.isSome = true) (field : String) :
    ∃ p, f.predicate? field = some p ∧ ∀ {ρ : Type} [Record ρ] (r : ρ),
      Record.value r field = .missing →
        (p.holds r = true ↔ ∀ c, some c ∈ slots → c.isNegative = true) ∧
        (p.holds r = false ↔ ∃ c, some c ∈ slots ∧ c.isNegative = false) := by
  obtain ⟨p,hp,hholds⟩ := h.exists_predicate set field
  refine ⟨p,hp,?_⟩
  intro ρ _ r hr
  have hnegative : p.holds r = slots.reduceOption.all Clause.isNegative := by
    rw [hholds,hr,← Clause.all_reduceOption]
    exact congrArg (List.all _) (funext Clause.admits_missing)
  rw [hnegative]
  constructor
  · simp only [List.all_eq_true,List.reduceOption_mem_iff]
  · simp only [List.all_eq_false,List.reduceOption_mem_iff,Bool.not_eq_true]

/-- An operand that is absent is no clause, and a list of nothing but absent members is one. -/
theorem Filter.MadeOf.holds_of_missing_sample :
    let name : TextFilter := { notContains := some "Doe", isNullOrEmpty := some true }
    let rank : ComparableFilter (OperandType.optional .int32) :=
      { equal := some none, notEqual := some (some 5) }
    let scores : CollectionFilter (OperandType.optional .int32) :=
      { containsAll := [none], containsNotAny := [some 5] }
    (name.toFilter.MadeOf name.slots ∧ name.slots.any Option.isSome = true ∧
      ∃ p, name.predicate? "name" = some p ∧ p.holds (Cell.mk .missing) = true) ∧
    (rank.toFilter.MadeOf rank.slots ∧ rank.slots.any Option.isSome = true ∧
      ∃ p, rank.predicate? "rank" = some p ∧ p.holds (Cell.mk .missing) = true) ∧
    scores.toFilter.MadeOf scores.slots ∧ scores.slots.any Option.isSome = true ∧
      ∃ p, scores.predicate? "scores" = some p ∧ p.holds (Cell.mk .missing) = false := by
  intro name rank scores
  have hnegative : (∀ c ∈ name.slots.reduceOption, c.isNegative = true) ∧
      ∀ c ∈ rank.slots.reduceOption, c.isNegative = true := by decide
  obtain ⟨p,hp,hholds⟩ := (MadeOf.text name).holds_of_missing rfl "name"
  obtain ⟨q,hq,hholds'⟩ := (MadeOf.comparable rank).holds_of_missing rfl "rank"
  obtain ⟨u,hu,hholds''⟩ := (MadeOf.collection scores).holds_of_missing rfl "scores"
  obtain ⟨hname,-⟩ := hholds (Cell.mk .missing) rfl
  obtain ⟨hrank,-⟩ := hholds' (Cell.mk .missing) rfl
  obtain ⟨-,hscores⟩ := hholds'' (Cell.mk .missing) rfl
  refine ⟨⟨.text name,rfl,p,hp,hname.2 ?_⟩,⟨.comparable rank,rfl,q,hq,hrank.2 ?_⟩,
    .collection scores,rfl,u,hu,hscores.2 ?_⟩
  · exact fun c hc => hnegative.1 c (List.reduceOption_mem_iff.2 hc)
  · exact fun c hc => hnegative.2 c (List.reduceOption_mem_iff.2 hc)
  · exact ⟨_,List.mem_cons_of_mem _ (List.mem_cons_self ..),rfl⟩

end RecordSearch

import RecordSearch.Proofs.Clauses
import RecordSearch.Proofs.Comparison

/-! What an enum filter says of a discriminant. It has to be among the wanted ones, where any are
named, and not among the unwanted ones. Lists only grow, whatever calls are made. -/
namespace RecordSearch.EnumFilter

/-- What a filter says of a discriminant. -/
structure Admits (f : EnumFilter) (d : UInt32) : Prop where
  equal : ∀ e, f.equal = some e → d = e
  notEqual : ∀ e, f.notEqual = some e → d ≠ e
  isIn : f.isIn = [] ∨ d ∈ f.isIn
  notIn : d ∉ f.notIn

section
variable (d e : UInt32) (ds : List UInt32)

lemma admits_equal : (Clause.compare .eq (.enum e)).admits (.enum d) = true ↔ d = e := by
  rw [Clause.admits,CompareOp.eq_holds,Scalar.isEqual_enum]

lemma admits_notEqual : (Clause.compare .ne (.enum e)).admits (.enum d) = true ↔ d ≠ e := by
  rw [Clause.admits,CompareOp.ne_holds (o := Ord.compare d e) rfl,Bool.not_eq_true',
    ← Bool.not_eq_true,Scalar.isEqual_enum]

lemma admits_oneOf : (Clause.oneOf ds).admits (.enum d) = true ↔ d ∈ ds := by
  rw [Clause.admits,List.any_eq_true]
  constructor
  · rintro ⟨e,hmem,heq⟩
    rwa [(admits_equal d e).1 heq]
  · intro hmem
    exact ⟨d,hmem,(admits_equal d d).2 rfl⟩

lemma admits_noneOf : (Clause.noneOf ds).admits (.enum d) = true ↔ d ∉ ds := by
  rw [Clause.admits,List.all_eq_true]
  constructor
  · intro h hmem
    exact (admits_notEqual d d).1 (h d hmem) rfl
  · intro h e hmem
    exact (admits_notEqual d e).2 fun heq => h (heq ▸ hmem)

end

/-- For a list of unwanted discriminants it makes no difference whether it is empty. -/
lemma all_slots_iff (f : EnumFilter) (d : UInt32) :
    f.slots.all (Option.all (Clause.admits (.enum d))) = true ↔ f.Admits d := by
  simp only [slots,List.all_cons,List.all_nil,Bool.and_true,Bool.and_eq_true,Clause.all_map,
    Clause.all_unlessEmpty,admits_equal,admits_notEqual,admits_oneOf,admits_noneOf]
  constructor
  · rintro ⟨equal,notEqual,isIn,notIn⟩
    refine ⟨equal,notEqual,isIn,?_⟩
    obtain hnil | hnot := notIn
    · exact hnil ▸ List.not_mem_nil
    · exact hnot
  · intro h
    exact ⟨h.equal,h.notEqual,h.isIn,.inr h.notIn⟩

/-- A call that adds to one of the two lists. -/
inductive Addition
  | isIn (ds : List UInt32)
  | notIn (ds : List UInt32)

namespace Addition

def run : Addition → EnumFilter → EnumFilter
  | isIn ds, f => f.addIsIn ds
  | notIn ds, f => f.addNotIn ds

/-- What a call adds to the wanted discriminants. -/
def wanted : Addition → List UInt32
  | isIn ds => ds
  | notIn _ => []

/-- What a call adds to the unwanted discriminants. -/
def unwanted : Addition → List UInt32
  | isIn _ => []
  | notIn ds => ds

lemma run_eq (call : Addition) (f : EnumFilter) : call.run f =
    { f with isIn := f.isIn ++ call.wanted, notIn := f.notIn ++ call.unwanted } := by
  cases call <;> simp [run,addIsIn,addNotIn,wanted,unwanted]

end Addition

/-- The filter after some calls. -/
def grown (f : EnumFilter) (calls : List Addition) : EnumFilter :=
  calls.foldl (fun f call => call.run f) f

/-- Calls add up, however their lists are divided among them. -/
lemma grown_eq (f : EnumFilter) (calls : List Addition) : f.grown calls =
    { f with
      isIn := f.isIn ++ calls.flatMap Addition.wanted
      notIn := f.notIn ++ calls.flatMap Addition.unwanted } := by
  induction calls generalizing f with
  | nil => simp [grown]
  | cons call calls ih =>
    change (call.run f).grown calls = _
    rw [ih,Addition.run_eq]
    simp

lemma isActive_grown {f : EnumFilter} (active : f.isActive = true) (calls : List Addition) :
    (f.grown calls).isActive = true := by
  rw [grown_eq]
  simp only [isActive,Bool.or_eq_true,Bool.not_eq_true',List.isEmpty_eq_false_iff] at active ⊢
  simp only [ne_eq,List.append_eq_nil_iff,not_and_or]
  tauto

lemma exists_predicate {f : EnumFilter} (active : f.isActive = true) (field : String) :
    ∃ p, f.predicate? field = some p ∧ ∀ {ρ : Type} [Record ρ] (r : ρ) (d : UInt32),
      Record.value r field = .enum d → (p.holds r = true ↔ f.Admits d) := by
  rw [isActive_eq] at active
  obtain ⟨p,hp,hholds⟩ := (Filter.MadeOf.enum f).exists_predicate active field
  refine ⟨p,hp,?_⟩
  intro ρ _ r d hd
  rw [hholds,hd,all_slots_iff]

/-- An active filter has a predicate for every field. It holds of a record with a discriminant
there exactly if the discriminant is equal to the one that it has to be equal to, differs from the
one that it must not be, is in the list of wanted ones unless that is empty, and not in the list of
unwanted ones. After further calls it is the same with all of their lists together. -/
theorem predicate_of_discriminant {f : EnumFilter} (active : f.isActive = true) (field : String) :
    (∃ p, f.predicate? field = some p ∧ ∀ {ρ : Type} [Record ρ] (r : ρ) (d : UInt32),
      Record.value r field = .enum d → (p.holds r = true ↔ f.Admits d)) ∧
    ∀ calls : List Addition, ∃ p, (f.grown calls).predicate? field = some p ∧
      ∀ {ρ : Type} [Record ρ] (r : ρ) (d : UInt32), Record.value r field = .enum d →
        (p.holds r = true ↔ Admits { f with
          isIn := f.isIn ++ calls.flatMap Addition.wanted
          notIn := f.notIn ++ calls.flatMap Addition.unwanted } d) := by
  refine ⟨exists_predicate active field,?_⟩
  intro calls
  rw [← grown_eq]
  exact exists_predicate (isActive_grown active calls) field

/-- Nothing is wanted in particular until calls name 1, 2 and 3, one of them with an empty list. Of
these 2 and 1 are unwanted. -/
theorem predicate_of_discriminant_sample :
    let f : EnumFilter := { notEqual := some 2, notIn := [1,4,1] }
    f.isActive = true ∧
    (∃ p, f.predicate? "status" = some p ∧ p.holds (Cell.mk (.enum 7)) = true ∧ f.Admits 7) ∧
    ∃ p, (f.grown [.isIn [1],.isIn [],.isIn [3,2]]).predicate? "status" = some p ∧
      p.holds (Cell.mk (.enum 3)) = true ∧
      Admits { f with isIn := [1,3,2] } 3 ∧ p.holds (Cell.mk (.enum 7)) = false ∧
      ¬ Admits { f with isIn := [1,3,2] } 7 := by
  intro f
  have active : f.isActive = true := rfl
  obtain ⟨⟨p,hp,hholds⟩,hgrown⟩ := predicate_of_discriminant active "status"
  obtain ⟨q,hq,hholds'⟩ := hgrown [.isIn [1],.isIn [],.isIn [3,2]]
  have hplain : p.holds (Cell.mk (.enum 7)) = true := by cases hp; decide
  have hkept : q.holds (Cell.mk (.enum 3)) = true := by cases hq; decide
  have hdropped : q.holds (Cell.mk (.enum 7)) = false := by cases hq; decide
  have hrefuses := hholds' (Cell.mk (.enum 7)) 7 rfl
  rw [hdropped] at hrefuses
  exact ⟨active,⟨p,hp,hplain,(hholds _ 7 rfl).1 hplain⟩,q,hq,hkept,
    (hholds' (Cell.mk (.enum 3)) 3 rfl).1 hkept,hdropped,fun h => Bool.noConfusion (hrefuses.2 h)⟩

end RecordSearch.EnumFilter

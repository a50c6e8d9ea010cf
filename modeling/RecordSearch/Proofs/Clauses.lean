import Mathlib.Data.List.ReduceOption
import Mathlib.Tactic.Common
import RecordSearch.Proofs.Grouping
import RecordSearch.Proofs.Kinds

/-! Clauses. A filter of this library is a list of clauses, each of which admits some values and
refuses the others, whatever field the filter is put on. The main statement is that the predicate of
a filter holds of a record when all clauses of the filter admit what the record has in the field. -/
namespace RecordSearch

/-- One constraint of a filter. -/
inductive Clause
  | compare (op : CompareOp) (operand : Scalar)
  | text (op : TextOp) (needle : String) (negated : Bool)
  | pattern (p : Pattern) (negated : Bool)
  | nullOrEmpty (yes : Bool)
  | oneOf (ds : List UInt32)
  | noneOf (ds : List UInt32)
  | contains (mode : SetMode) (set : List Scalar) (negated : Bool)

namespace Clause

/-- Whether a value is as a clause says. A negated clause admits what the clause itself refuses,
values of other kinds and missing ones included. -/
def admits (v : Value) : Clause → Bool
  | compare op operand => op.holds operand v
  | text op needle negated => v.string?.any (op.holds · needle) != negated
  | pattern p negated => v.string?.any p.isMatch != negated
  | nullOrEmpty yes => (v.isMissing || v.string?.any String.isEmpty) == yes
  | oneOf ds => ds.any fun d => CompareOp.eq.holds (.enum d) v
  | noneOf ds => ds.all fun d => CompareOp.ne.holds (.enum d) v
  | contains mode set negated => v.list?.any (mode.holds set) != negated

/-- What a clause asks of a field. -/
def predicate (field : String) : Clause → Predicate
  | compare op operand => .compare field op operand
  | text op needle negated => TextFilter.negateIf negated (.text field op needle)
  | pattern p negated => TextFilter.negateIf negated (.pattern field p)
  | nullOrEmpty yes => TextFilter.negateIf (!yes) (.nullOrEmpty field)
  | oneOf ds => (Predicate.any? (ds.map (EnumFilter.discriminant field .eq))).getD (.or [])
  | noneOf ds => (Predicate.all? (ds.map (EnumFilter.discriminant field .ne))).getD (.and [])
  | contains mode set negated => TextFilter.negateIf negated (.contains field mode set)

section
variable {ρ : Type} [Record ρ]

lemma holds_negateIf (negated : Bool) (p : Predicate) (r : ρ) :
    (TextFilter.negateIf negated p).holds r = (p.holds r != negated) := by
  cases negated <;> simp [TextFilter.negateIf]

lemma holds_predicate (c : Clause) (field : String) (r : ρ) :
    (c.predicate field).holds r = c.admits (Record.value r field) := by
  cases c with
  | compare op operand => rfl
  | text op needle negated =>
    rw [predicate,holds_negateIf,admits,Predicate.holds]
    cases Record.value r field <;> rfl
  | pattern p negated =>
    rw [predicate,holds_negateIf,admits,Predicate.holds]
    cases Record.value r field <;> rfl
  | nullOrEmpty yes =>
    rw [predicate,holds_negateIf,admits,Predicate.holds]
    cases Record.value r field <;> cases yes <;> simp [Value.isMissing,Value.string?]
  | oneOf ds =>
    rw [predicate,Predicate.holds_any?_getD,List.any_map]
    rfl
  | noneOf ds =>
    rw [predicate,Predicate.holds_all?_getD,List.all_map]
    rfl
  | contains mode set negated =>
    rw [predicate,holds_negateIf,admits,Predicate.holds]
    cases Record.value r field <;> rfl

end

/-- A clause over a list, which is left out where the list is empty. -/
def unlessEmpty {α : Type} (xs : List α) (c : Clause) : Option Clause :=
  if xs.isEmpty then none else some c

section
variable {α : Type} (xs : List α) (c : Clause)

@[simp] lemma isSome_unlessEmpty : (unlessEmpty xs c).isSome = !xs.isEmpty := by
  cases xs <;> rfl

@[simp] lemma all_unlessEmpty (test : Clause → Bool) :
    (unlessEmpty xs c).all test = true ↔ xs = [] ∨ test c = true := by
  cases xs <;> simp [unlessEmpty]

end

lemma all_map {α : Type} (operand : Option α) (clause : α → Clause) (test : Clause → Bool) :
    (operand.map clause).all test = true ↔ ∀ a, operand = some a → test (clause a) = true := by
  cases operand <;> simp

section
variable (slots : List (Option Clause))

lemma all_reduceOption (test : Clause → Bool) :
    slots.reduceOption.all test = slots.all (Option.all test) := by
  induction slots with
  | nil => rfl
  | cons slot slots ih =>
    cases slot with
    | none => exact ih
    | some c => exact congrArg (test c && ·) ih

lemma isEmpty_reduceOption : slots.reduceOption.isEmpty = !slots.any Option.isSome := by
  induction slots with
  | nil => rfl
  | cons slot slots ih =>
    cases slot with
    | none => exact ih
    | some c => rfl

lemma reduceOption_ne_nil (h : slots.any Option.isSome = true) : slots.reduceOption ≠ [] := by
  rw [← List.isEmpty_eq_false_iff,isEmpty_reduceOption,h]
  rfl

end
end Clause

namespace TextFilter

/-- The clauses, as far as they are set to an operand that is not blank. -/
def slots (f : TextFilter) : List (Option Clause) :=
  [(nonBlank? f.equal).map (.compare .eq <| .string ·),
    (nonBlank? f.notEqual).map (.compare .ne <| .string ·),
    (nonBlank? f.startsWith).map (.text .startsWith · false),
    (nonBlank? f.notStartsWith).map (.text .startsWith · true),
    (nonBlank? f.endsWith).map (.text .endsWith · false),
    (nonBlank? f.notEndsWith).map (.text .endsWith · true),
    (nonBlank? f.contains).map (.text .contains · false),
    (nonBlank? f.notContains).map (.text .contains · true),
    f.matchesPattern.map (.pattern · false),f.notMatchesPattern.map (.pattern · true),
    f.isNullOrEmpty.map .nullOrEmpty]

lemma clauses_eq (f : TextFilter) (field : String) :
    f.clauses field = f.slots.reduceOption.map (Clause.predicate field) := by
  rw [← List.reduceOption_map]
  simp [clauses,slots,compareClause?,textOperands,textClause?,List.reduceOption,
    List.filterMap_eq_flatMap_toList,Function.comp_def,Clause.predicate,negateIf]

lemma isActive_eq (f : TextFilter) : f.isActive = f.slots.any Option.isSome := by
  simp only [isActive,slots,textOperands,List.any_cons,List.any_nil,Option.isSome_map,
    Bool.or_false]
  ac_rfl

end TextFilter

namespace ComparableFilter
variable {t : ScalarType}

/-- The clauses, as far as they are set to an operand that is not absent. -/
def slots (f : ComparableFilter t) : List (Option Clause) :=
  [(f.equal.bind t.scalar?).map (.compare .eq),(f.notEqual.bind t.scalar?).map (.compare .ne),
    (f.greaterThan.bind t.scalar?).map (.compare .gt),
    (f.greaterThanOrEqual.bind t.scalar?).map (.compare .gte),
    (f.lessThan.bind t.scalar?).map (.compare .lt),
    (f.lessThanOrEqual.bind t.scalar?).map (.compare .lte)]

lemma clauses_eq (f : ComparableFilter t) (field : String) :
    f.clauses field = f.slots.reduceOption.map (Clause.predicate field) := by
  rw [← List.reduceOption_map]
  simp [clauses,slots,operands,clause?,List.reduceOption,List.filterMap_eq_flatMap_toList,
    Function.comp_def,Clause.predicate]

end ComparableFilter

namespace BooleanFilter

/-- The clauses, as far as they are set. -/
def slots (f : BooleanFilter) : List (Option Clause) :=
  [f.equal.map (.compare .eq <| .bool ·),f.notEqual.map (.compare .ne <| .bool ·)]

lemma clauses_eq (f : BooleanFilter) (field : String) :
    f.clauses field = f.slots.reduceOption.map (Clause.predicate field) := by
  rw [← List.reduceOption_map]
  simp [clauses,slots,List.reduceOption,List.filterMap_eq_flatMap_toList,Function.comp_def,
    Clause.predicate]

lemma isActive_eq (f : BooleanFilter) : f.isActive = f.slots.any Option.isSome := by
  simp [isActive,slots]

end BooleanFilter

namespace EnumFilter

/-- The clauses, as far as they are set to something, and not to an empty list. -/
def slots (f : EnumFilter) : List (Option Clause) :=
  [f.equal.map (.compare .eq <| .enum ·),f.notEqual.map (.compare .ne <| .enum ·),
    Clause.unlessEmpty f.isIn (.oneOf f.isIn),Clause.unlessEmpty f.notIn (.noneOf f.notIn)]

lemma map_unlessEmpty_oneOf (ds : List UInt32) (field : String) :
    (Clause.unlessEmpty ds (.oneOf ds)).map (Clause.predicate field) =
      Predicate.any? (ds.map (discriminant field .eq)) := by
  rcases ds with _ | ⟨d,_ | ⟨e,ds⟩⟩ <;> rfl

lemma map_unlessEmpty_noneOf (ds : List UInt32) (field : String) :
    (Clause.unlessEmpty ds (.noneOf ds)).map (Clause.predicate field) =
      Predicate.all? (ds.map (discriminant field .ne)) := by
  rcases ds with _ | ⟨d,_ | ⟨e,ds⟩⟩ <;> rfl

lemma clauses_eq (f : EnumFilter) (field : String) :
    f.clauses field = f.slots.reduceOption.map (Clause.predicate field) := by
  rw [← List.reduceOption_map]
  simp [clauses,slots,map_unlessEmpty_oneOf,map_unlessEmpty_noneOf,List.reduceOption,
    List.filterMap_eq_flatMap_toList,Function.comp_def,Clause.predicate]
  rfl

lemma isActive_eq (f : EnumFilter) : f.isActive = f.slots.any Option.isSome := by
  simp [isActive,slots,Bool.or_assoc]

end EnumFilter

namespace CollectionFilter
variable {t : ScalarType}

/-- The clause of a set, unless it is empty. -/
def slot : List t.Carrier × SetMode × Bool → Option Clause
  | (set,mode,negated) => Clause.unlessEmpty set (.contains mode (set.filterMap t.scalar?) negated)

/-- The clauses, as far as they are set. -/
def slots (f : CollectionFilter t) : List (Option Clause) :=
  [slot (f.containsAny,.any,false),slot (f.containsAll,.all,false),
    slot (f.containsNotAny,.any,true),slot (f.containsNotAll,.all,true)]

lemma clauses_eq (f : CollectionFilter t) (field : String) :
    f.clauses field = f.slots.reduceOption.map (Clause.predicate field) := by
  have hslot : ∀ operands : List (List t.Carrier × SetMode × Bool),
      (operands.filter fun operand => !operand.1.isEmpty).map (clause field) =
        ((operands.map slot).map (Option.map (Clause.predicate field))).reduceOption := by
    intro operands
    induction operands with
    | nil => rfl
    | cons operand operands ih =>
      obtain ⟨set,mode,negated⟩ := operand
      rcases set with _ | ⟨v,set⟩
      · exact ih
      · exact congrArg _ ih
  rw [← List.reduceOption_map]
  exact hslot f.operands

lemma isActive_eq (f : CollectionFilter t) : f.isActive = f.slots.any Option.isSome := by
  simp [isActive,slots,slot,operands]

end CollectionFilter

/-- The clauses that a filter of this library is made of, each of them set or not. The operands may
be of any type. -/
inductive Filter.MadeOf : Filter → List (Option Clause) → Prop
  | text (f : TextFilter) : MadeOf f.toFilter f.slots
  | comparable {t : ScalarType} (f : ComparableFilter t) : MadeOf f.toFilter f.slots
  | boolean (f : BooleanFilter) : MadeOf f.toFilter f.slots
  | enum (f : EnumFilter) : MadeOf f.toFilter f.slots
  | collection {t : ScalarType} (f : CollectionFilter t) : MadeOf f.toFilter f.slots

namespace Filter.MadeOf
variable {f : Filter} {slots : List (Option Clause)}

lemma predicate?_eq (h : f.MadeOf slots) (field : String) :
    f.predicate? field = Predicate.all? (slots.reduceOption.map (Clause.predicate field)) := by
  cases h with
  | text f | comparable f | boolean f | enum f | collection f =>
    exact congrArg Predicate.all? (f.clauses_eq field)

/-- A filter with a clause that is set has a predicate for every field, which holds of the records
whose value there all the clauses admit. -/
theorem exists_predicate (h : f.MadeOf slots) (set : slots.any Option.isSome = true)
    (field : String) : ∃ p, f.predicate? field = some p ∧ ∀ {ρ : Type} [Record ρ] (r : ρ),
      p.holds r = slots.all (Option.all (Clause.admits (Record.value r field))) := by
  have hset : slots.reduceOption.map (Clause.predicate field) ≠ [] := by
    simpa using Clause.reduceOption_ne_nil slots set
  obtain ⟨p,hp,hholds⟩ := Predicate.exists_all? hset
  refine ⟨p,(h.predicate?_eq field).trans hp,?_⟩
  intro ρ _ r
  rw [hholds,List.all_map,← Clause.all_reduceOption]
  exact congrArg (List.all _) (funext fun c => c.holds_predicate field r)

end Filter.MadeOf

/-- A record that has the same value under every name. -/
structure Cell where
  value : Value

instance : Record Cell where
  value r _ := r.value

end RecordSearch

import Mathlib.Tactic.Common
import RecordSearch.Predicate

/-! How values compare with scalars. Equality is what the order of the two says, and inequality
its opposite wherever there is an order at all; a missing value is unequal to everything. -/
namespace RecordSearch

namespace Scalar

@[simp] lemma isEqual_string (s t : String) : (string t).isEqual (.string s) = true ↔ s = t := by
  simp [isEqual,order?]

@[simp] lemma isEqual_enum (d e : UInt32) : (enum e).isEqual (.enum d) = true ↔ d = e := by
  simp [isEqual,order?]

end Scalar

namespace CompareOp
variable {operand : Scalar} {v : Value}

lemma eq_holds (operand : Scalar) (v : Value) : eq.holds operand v = operand.isEqual v := by
  rw [holds,Scalar.isEqual]
  cases operand.order? v with
  | none => rfl
  | some o => simp [isOrdering,accepts]

lemma ne_holds {o : Ordering} (h : operand.order? v = some o) :
    ne.holds operand v = !operand.isEqual v := by
  rw [holds,Scalar.isEqual,h]
  rfl

@[simp] lemma holds_missing (op : CompareOp) (operand : Scalar) :
    op.holds operand .missing = (op == .ne) := by
  cases operand <;> simp [holds,Scalar.order?,Value.isMissing]

end CompareOp
end RecordSearch

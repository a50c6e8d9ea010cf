import RecordSearch.Filter

/-! Constraints on the place of a value in its order. The operands are of one type; an operand
that is given and absent makes the filter active but asks nothing. -/
namespace RecordSearch

structure ComparableFilter (t : ScalarType) where
  equal : Option t.Carrier := none
  notEqual : Option t.Carrier := none
  greaterThan : Option t.Carrier := none
  greaterThanOrEqual : Option t.Carrier := none
  lessThan : Option t.Carrier := none
  lessThanOrEqual : Option t.Carrier := none

namespace ComparableFilter
variable {t : ScalarType}

def empty : ComparableFilter t := {}

/-- From `low` to `high`, both included. -/
def between (f : ComparableFilter t) (low high : t.Carrier) : ComparableFilter t :=
  { f with greaterThanOrEqual := some low, lessThanOrEqual := some high }

/-- The operands in a fixed order, with their operators. -/
def operands (f : ComparableFilter t) : List (Option t.Carrier × CompareOp) :=
  [(f.equal, .eq), (f.notEqual, .ne), (f.greaterThan, .gt), (f.greaterThanOrEqual, .gte),
    (f.lessThan, .lt), (f.lessThanOrEqual, .lte)]

def isActive (f : ComparableFilter t) : Bool := f.operands.any fun operand => operand.1.isSome

def clause? (field : String) : Option t.Carrier × CompareOp → Option Predicate
  | (operand, op) => (operand.bind t.scalar?).map fun s => .compare field op s

def clauses (f : ComparableFilter t) (field : String) : List Predicate :=
  f.operands.filterMap (clause? field)

def predicate? (f : ComparableFilter t) (field : String) : Option Predicate :=
  Predicate.all? (f.clauses field)

def toFilter (f : ComparableFilter t) : Filter where
  isActive := f.isActive
  predicate? := f.predicate?
  target := t.kind

end ComparableFilter
end RecordSearch

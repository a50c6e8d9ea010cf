import RecordSearch.Filter

/-! Constraints on the elements of a list field. Sets grow with every call, and an empty one asks
nothing; members that are absent count for a set not being empty but are compared with nothing. -/
namespace RecordSearch

structure CollectionFilter (t : ScalarType) where
  containsAny : List t.Carrier := []
  containsAll : List t.Carrier := []
  containsNotAny : List t.Carrier := []
  containsNotAll : List t.Carrier := []

namespace CollectionFilter
variable {t : ScalarType}

def empty : CollectionFilter t := {}

def addAny (f : CollectionFilter t) (xs : List t.Carrier) : CollectionFilter t :=
  { f with containsAny := f.containsAny ++ xs }

def addAll (f : CollectionFilter t) (xs : List t.Carrier) : CollectionFilter t :=
  { f with containsAll := f.containsAll ++ xs }

def addNotAny (f : CollectionFilter t) (xs : List t.Carrier) : CollectionFilter t :=
  { f with containsNotAny := f.containsNotAny ++ xs }

def addNotAll (f : CollectionFilter t) (xs : List t.Carrier) : CollectionFilter t :=
  { f with containsNotAll := f.containsNotAll ++ xs }

/-- The sets in a fixed order, with how they are tested and whether the test is negated. -/
def operands (f : CollectionFilter t) : List (List t.Carrier × SetMode × Bool) :=
  [(f.containsAny, .any, false), (f.containsAll, .all, false),
    (f.containsNotAny, .any, true), (f.containsNotAll, .all, true)]

def isActive (f : CollectionFilter t) : Bool := f.operands.any fun operand => !operand.1.isEmpty

def clause (field : String) : List t.Carrier × SetMode × Bool → Predicate
  | (set, mode, negated) =>
    let test := Predicate.contains field mode (set.filterMap t.scalar?)
    if negated then test.negate else test

def clauses (f : CollectionFilter t) (field : String) : List Predicate :=
  (f.operands.filter fun operand => !operand.1.isEmpty).map (clause field)

def predicate? (f : CollectionFilter t) (field : String) : Option Predicate :=
  Predicate.all? (f.clauses field)

def toFilter (f : CollectionFilter t) : Filter where
  isActive := f.isActive
  predicate? := f.predicate?
  target := .list
  element? := some t.kind

end CollectionFilter
end RecordSearch

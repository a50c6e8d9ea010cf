import RecordSearch.Filter

/-! Constraints on a yes-or-no field. -/
namespace RecordSearch

structure BooleanFilter where
  equal : Option Bool := none
  notEqual : Option Bool := none

namespace BooleanFilter

def empty : BooleanFilter := {}

def isActive (f : BooleanFilter) : Bool := f.equal.isSome || f.notEqual.isSome

def clauses (f : BooleanFilter) (field : String) : List Predicate :=
  (f.equal.map fun b => Predicate.compare field .eq (.bool b)).toList ++
    (f.notEqual.map fun b => Predicate.compare field .ne (.bool b)).toList

def predicate? (f : BooleanFilter) (field : String) : Option Predicate :=
  Predicate.all? (f.clauses field)

def toFilter (f : BooleanFilter) : Filter where
  isActive := f.isActive
  predicate? := f.predicate?
  target := .bool

end BooleanFilter
end RecordSearch

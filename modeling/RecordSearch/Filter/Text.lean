import RecordSearch.Filter

/-! Constraints on a string. A blank operand counts as none. -/
namespace RecordSearch

structure TextFilter where
  equal : Option String := none
  notEqual : Option String := none
  startsWith : Option String := none
  notStartsWith : Option String := none
  endsWith : Option String := none
  notEndsWith : Option String := none
  contains : Option String := none
  notContains : Option String := none
  /-- Keeps missing and empty strings if true, and drops them if false. -/
  isNullOrEmpty : Option Bool := none
  matchesPattern : Option Pattern := none
  notMatchesPattern : Option Pattern := none

namespace TextFilter

def empty : TextFilter := {}

def nonBlank? (operand : Option String) : Option String := operand.filter fun s => !Text.isBlank s

/-- The operands of the text operators, with the operator and whether it is negated. -/
def textOperands (f : TextFilter) : List (Option String × TextOp × Bool) :=
  [(nonBlank? f.startsWith, .startsWith, false), (nonBlank? f.notStartsWith, .startsWith, true),
    (nonBlank? f.endsWith, .endsWith, false), (nonBlank? f.notEndsWith, .endsWith, true),
    (nonBlank? f.contains, .contains, false), (nonBlank? f.notContains, .contains, true)]

def isActive (f : TextFilter) : Bool :=
  f.isNullOrEmpty.isSome || (nonBlank? f.equal).isSome || (nonBlank? f.notEqual).isSome ||
    f.textOperands.any (fun operand => operand.1.isSome) ||
    f.matchesPattern.isSome || f.notMatchesPattern.isSome

def negateIf (negated : Bool) (p : Predicate) : Predicate := if negated then p.negate else p

def compareClause? (field : String) (op : CompareOp) (operand : Option String) : Option Predicate :=
  (nonBlank? operand).map fun s => .compare field op (.string s)

def textClause? (field : String) : Option String × TextOp × Bool → Option Predicate
  | (operand, op, negated) => operand.map fun s => negateIf negated (.text field op s)

/-- The clauses that are set, in a fixed order. -/
def clauses (f : TextFilter) (field : String) : List Predicate :=
  (compareClause? field .eq f.equal).toList ++ (compareClause? field .ne f.notEqual).toList ++
    f.textOperands.filterMap (textClause? field) ++
    (f.matchesPattern.map fun p => Predicate.pattern field p).toList ++
    (f.notMatchesPattern.map fun p => (Predicate.pattern field p).negate).toList ++
    (f.isNullOrEmpty.map fun yes => negateIf (!yes) (.nullOrEmpty field)).toList

def predicate? (f : TextFilter) (field : String) : Option Predicate :=
  Predicate.all? (f.clauses field)

def toFilter (f : TextFilter) : Filter where
  isActive := f.isActive
  predicate? := f.predicate?
  target := .string

end TextFilter
end RecordSearch

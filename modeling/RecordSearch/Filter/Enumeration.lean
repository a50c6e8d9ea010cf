import RecordSearch.Filter

/-! Constraints on a field that holds one of finitely many alternatives, given by their
discriminants. Membership lists grow with every call, and an empty one asks nothing. -/
namespace RecordSearch

structure EnumFilter where
  equal : Option UInt32 := none
  notEqual : Option UInt32 := none
  isIn : List UInt32 := []
  notIn : List UInt32 := []

namespace EnumFilter

def empty : EnumFilter := {}

def addIsIn (f : EnumFilter) (ds : List UInt32) : EnumFilter := { f with isIn := f.isIn ++ ds }
def addNotIn (f : EnumFilter) (ds : List UInt32) : EnumFilter := { f with notIn := f.notIn ++ ds }

def isActive (f : EnumFilter) : Bool :=
  f.equal.isSome || f.notEqual.isSome || !f.isIn.isEmpty || !f.notIn.isEmpty

def discriminant (field : String) (op : CompareOp) (d : UInt32) : Predicate :=
  .compare field op (.enum d)

def clauses (f : EnumFilter) (field : String) : List Predicate :=
  (f.equal.map (discriminant field .eq)).toList ++
    (f.notEqual.map (discriminant field .ne)).toList ++
    (Predicate.any? (f.isIn.map (discriminant field .eq))).toList ++
    (Predicate.all? (f.notIn.map (discriminant field .ne))).toList

def predicate? (f : EnumFilter) (field : String) : Option Predicate :=
  Predicate.all? (f.clauses field)

def toFilter (f : EnumFilter) : Filter where
  isActive := f.isActive
  predicate? := f.predicate?
  target := .enum

end EnumFilter
end RecordSearch

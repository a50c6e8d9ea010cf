import RecordSearch.Operand
import RecordSearch.Pattern
import RecordSearch.Text.Affix

/-! Predicates: yes-or-no questions about one record, as trees over tests of single fields. -/
namespace RecordSearch

/-- Reading the fields of a record by name. -/
class Record (ρ : Type) where
  value : ρ → String → Value

inductive CompareOp
  | eq | ne | gt | gte | lt | lte
  deriving DecidableEq, Repr

namespace CompareOp

def name : CompareOp → String
  | eq => "eq"
  | ne => "ne"
  | gt => "gt"
  | gte => "gte"
  | lt => "lt"
  | lte => "lte"

def all : List CompareOp := [eq, ne, gt, gte, lt, lte]

/-- Operators that need an order, not just equality. -/
def isOrdering : CompareOp → Bool
  | eq | ne => false
  | _ => true

/-- The operator, given where the value stands relative to the operand. -/
def accepts : CompareOp → Ordering → Bool
  | eq, o => o == .eq
  | ne, o => o != .eq
  | gt, o => o == .gt
  | gte, o => o != .lt
  | lt, o => o == .lt
  | lte, o => o != .gt

/-- A missing value is unequal to everything and has no order. Where the operand's kind has no
order, the two inclusive operators ask for equality and the two strict ones never hold. -/
def holds (op : CompareOp) (operand : Scalar) (v : Value) : Bool :=
  match operand.order? v with
  | some o =>
    if op.isOrdering && !operand.isOrdered then
      (op == gte || op == lte) && o == .eq
    else op.accepts o
  | none => op == ne && v.isMissing

end CompareOp

inductive TextOp
  | startsWith | endsWith | contains
  deriving DecidableEq, Repr

namespace TextOp

def name : TextOp → String
  | startsWith => "startswith"
  | endsWith => "endswith"
  | contains => "contains"

def all : List TextOp := [startsWith, endsWith, contains]

def holds : TextOp → String → String → Bool
  | startsWith, s, needle => Text.startsWith s needle
  | endsWith, s, needle => Text.endsWith s needle
  | contains, s, needle => Text.contains s needle

end TextOp

/-- How the elements of a list field are tested against a set. -/
inductive SetMode
  /-- Some element is in the set. -/
  | any
  /-- Every member of the set is an element. -/
  | all
  deriving DecidableEq, Repr

namespace SetMode

def name : SetMode → String
  | any => "any"
  | all => "all"

def modes : List SetMode := [any, all]

def holds : SetMode → List Scalar → List Value → Bool
  | any, set, items => items.any fun item => set.any fun s => s.isEqual item
  | all, set, items => set.all fun s => items.any fun item => s.isEqual item

end SetMode

inductive Predicate
  | compare (field : String) (op : CompareOp) (operand : Scalar)
  | text (field : String) (op : TextOp) (needle : String)
  | pattern (field : String) (p : Pattern)
  | nullOrEmpty (field : String)
  | contains (field : String) (mode : SetMode) (set : List Scalar)
  | and (ps : List Predicate)
  | or (ps : List Predicate)
  | not (p : Predicate)

namespace Predicate

/-- Negation does not pile up. -/
def negate : Predicate → Predicate
  | not p => p
  | p => not p

/-- A group of no predicates is none, and of one is that one. -/
def group? (node : List Predicate → Predicate) : List Predicate → Option Predicate
  | [] => none
  | [p] => some p
  | ps => some (node ps)

def all? : List Predicate → Option Predicate := group? and
def any? : List Predicate → Option Predicate := group? or

section
variable {ρ : Type} [Record ρ]

mutual

/-- Whether a record satisfies a predicate. -/
def holds (r : ρ) : Predicate → Bool
  | compare field op operand => op.holds operand (Record.value r field)
  | text field op needle =>
    match Record.value r field with
    | .string s => op.holds s needle
    | _ => false
  | pattern field p =>
    match Record.value r field with
    | .string s => p.isMatch s
    | _ => false
  | nullOrEmpty field =>
    match Record.value r field with
    | .missing => true
    | .string s => s.isEmpty
    | _ => false
  | contains field mode set =>
    match Record.value r field with
    | .list items => mode.holds set items
    | _ => false
  | and ps => holdsAll r ps
  | or ps => holdsAny r ps
  | not p => !holds r p

def holdsAll (r : ρ) : List Predicate → Bool
  | [] => true
  | p :: ps => holds r p && holdsAll r ps

def holdsAny (r : ρ) : List Predicate → Bool
  | [] => false
  | p :: ps => holds r p || holdsAny r ps

end

@[simp] theorem holdsAll_eq (r : ρ) (ps : List Predicate) : holdsAll r ps = ps.all (holds r) := by
  induction ps with
  | nil => rfl
  | cons p ps ih => simp [holdsAll, ih]

@[simp] theorem holdsAny_eq (r : ρ) (ps : List Predicate) : holdsAny r ps = ps.any (holds r) := by
  induction ps with
  | nil => rfl
  | cons p ps ih => simp [holdsAny, ih]

@[simp] theorem holds_and (r : ρ) (ps : List Predicate) : (and ps).holds r = ps.all (holds r) := by
  rw [holds, holdsAll_eq]

@[simp] theorem holds_or (r : ρ) (ps : List Predicate) : (or ps).holds r = ps.any (holds r) := by
  rw [holds, holdsAny_eq]

@[simp] theorem holds_not (r : ρ) (p : Predicate) : (not p).holds r = !p.holds r := by rw [holds]

end

/-- Puts a name into an ascending list, once. -/
def insertName (name : String) : List String → List String
  | [] => [name]
  | other :: names =>
    match Ord.compare name other with
    | .lt => name :: other :: names
    | .eq => other :: names
    | .gt => other :: insertName name names

mutual

/-- Adds the fields that a predicate tests to an ascending list. -/
def addFields (names : List String) : Predicate → List String
  | compare field _ _ => insertName field names
  | text field _ _ => insertName field names
  | pattern field _ => insertName field names
  | nullOrEmpty field => insertName field names
  | contains field _ _ => insertName field names
  | and ps => addAllFields names ps
  | or ps => addAllFields names ps
  | not p => addFields names p

def addAllFields (names : List String) : List Predicate → List String
  | [] => names
  | p :: ps => addAllFields (addFields names p) ps

end

/-- The fields that a predicate tests, in ascending order and each once. -/
def fields (p : Predicate) : List String := addFields [] p

end Predicate

/-- How the predicates of one filter on several fields combine. -/
inductive ApplyMode
  | and | or
  deriving DecidableEq, Repr

namespace ApplyMode

instance : Inhabited ApplyMode := ⟨and⟩

def combine : ApplyMode → List Predicate → Option Predicate
  | and => Predicate.all?
  | or => Predicate.any?

end ApplyMode
end RecordSearch

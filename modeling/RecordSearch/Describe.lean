import RecordSearch.MultiSearch
import RecordSearch.Search
import RecordSearch.Source.Plan

/-! Descriptions: predicates, plans and searches written out as trees on one line. A node is its
name with named parts in braces or plain parts in parentheses. -/
namespace RecordSearch

/-- A node with named parts. -/
def describeNode (name : String) (parts : List (String × String)) : String :=
  name ++ " \x7b " ++ ", ".intercalate (parts.map fun p => p.1 ++ ": " ++ p.2) ++ " \x7d"

/-- A node with one plain part. -/
def describeCall (name part : String) : String := name ++ "(" ++ part ++ ")"

def describeList (parts : List String) : String := "[" ++ ", ".intercalate parts ++ "]"

def describeOption : Option String → String
  | some s => describeCall "Some" s
  | none => "None"

def describeBool (b : Bool) : String := if b then "true" else "false"

/-- Things that have a description. -/
class Describe (α : Type) where
  describe : α → String

export Describe (describe)

instance : Describe Number where
  describe
    | .signed n => describeCall "I64" (toString n.toInt)
    | .unsigned n => describeCall "U64" (toString n.toNat)
    | .real x => describeCall "F64" (x.text .precise)

instance : Describe Scalar where
  describe
    | .string s => describeCall "String" (Text.quote s)
    | .number n => describeCall "Number" (describe n)
    | .timestamp t =>
      describeCall "Timestamp" (describeCall "Timestamp" (toString t.millis.toInt))
    | .enum d => describeCall "Enum" (toString d.toNat)
    | .bool b => describeCall "Bool" (describeBool b)

instance : Describe CompareOp where
  describe
    | .eq => "Eq"
    | .ne => "Ne"
    | .gt => "Gt"
    | .gte => "Gte"
    | .lt => "Lt"
    | .lte => "Lte"

instance : Describe TextOp where
  describe
    | .startsWith => "StartsWith"
    | .endsWith => "EndsWith"
    | .contains => "Contains"

instance : Describe SetMode where
  describe
    | .any => "Any"
    | .all => "All"

instance : Describe ApplyMode where
  describe
    | .and => "And"
    | .or => "Or"

namespace Predicate

mutual

def description : Predicate → String
  | compare field op operand =>
    describeNode "Compare"
      [("field", Text.quote field), ("op", describe op), ("value", describe operand)]
  | text field op needle =>
    describeNode "Text"
      [("field", Text.quote field), ("op", describe op), ("value", Text.quote needle)]
  | pattern field p =>
    describeNode "Regex"
      [("field", Text.quote field), ("regex", describeCall "Regex" (Text.quote p.text))]
  | nullOrEmpty field => describeNode "NullOrEmpty" [("field", Text.quote field)]
  | contains field mode set =>
    describeNode "Contains"
      [("field", Text.quote field), ("mode", describe mode),
        ("set", describeList (set.map describe))]
  | and ps => describeCall "And" (describeList (descriptions ps))
  | or ps => describeCall "Or" (describeList (descriptions ps))
  | not p => describeCall "Not" (description p)

def descriptions : List Predicate → List String
  | [] => []
  | p :: ps => description p :: descriptions ps

end

end Predicate

instance : Describe Predicate := ⟨Predicate.description⟩

instance : Describe Step where
  describe
    | .filter p => describeCall "Filter" (describe p)
    | .skip n => describeCall "Skip" (toString n)
    | .take n => describeCall "Take" (toString n)

instance : Describe Plan where
  describe p := describeNode "Plan" [("steps", describeList (p.steps.map describe))]

instance {ρ : Type} : Describe (Records ρ) where
  describe r :=
    describeNode "Records" [("len", toString r.items.length), ("plan", describe r.plan)]

instance : Describe Setting where
  describe
    | .unsetFilter => "Filter(unset)"
    | .filter _ => "Filter(set)"
    | .unsetScalar => "Scalar(unset)"
    | .scalar v => describeCall "Scalar" (describeOption (v.map describe))
    | .missing => "Missing"

instance : Describe FieldOverride where
  describe o :=
    describeNode "FieldOverride"
      [("field", Text.quote o.field), ("predicate", describeOption (o.predicate?.map describe))]

def describeNames (names : List String) : String := describeList (names.map Text.quote)

instance {σ : Type} [Describe σ] : Describe (Search σ) where
  describe s :=
    describeNode "Search"
      [("source", describe s.source), ("filters", describeNames s.filters),
        ("plain", describeNames s.plain), ("skips", describeNames s.skips),
        ("takes", describeNames s.takes), ("overrides", describeNames s.overrides.names),
        ("apply_all", describeBool s.applyAll), ("apply_paging", describeBool s.paging)]

instance {σ : Type} [Describe σ] : Describe (MultiSearch σ) where
  describe m :=
    describeNode "MultiSearch"
      [("source", describe m.source), ("apply_type", describe m.mode),
        ("predicates", describeList (m.predicates.map describe))]

end RecordSearch

import RecordSearch.Text.Blank
import RecordSearch.Text.CaseVariant
import RecordSearch.Text.Letter
import RecordSearch.Text.NamedProperty
import RecordSearch.Text.Script

/-! Character classes of patterns: ranges and properties under set operations, and the closure
of a class under difference of case. -/
namespace RecordSearch

inductive CharClass
  | none
  | range (first last : Nat)
  | property (p : Text.Property)
  | table (s : Text.CharSet)
  | not (c : CharClass)
  | or (a b : CharClass)
  | and (a b : CharClass)
  /-- What differs only in case from a member; among the plain letters if `plain`. -/
  | anyCase (plain : Bool) (c : CharClass)

namespace CharClass

def has : CharClass → Nat → Bool
  | none, _ => false
  | range first last, n => decide (first ≤ n) && decide (n ≤ last)
  | property p, n => p.has n
  | table s, n => s.has n
  | not c, n => !c.has n
  | or a b, n => a.has n || b.has n
  | and a b, n => a.has n && b.has n
  | anyCase plain c, n =>
    (if plain then Text.plainCaseVariants n else Text.caseVariants n).any c.has

def contains (c : CharClass) (x : Char) : Bool := c.has x.toNat

def single (x : Char) : CharClass := range x.toNat x.toNat

def any : CharClass := range 0 0x10FFFF

def ofRanges (rs : List (Nat × Nat)) : CharClass :=
  rs.foldr (fun r c => or (range r.1 r.2) c) none

def ofCategories (gs : List Text.Category) : CharClass := property ⟨gs, .empty, .empty⟩

def minus (a b : CharClass) : CharClass := and a (not b)

def symmetricDifference (a b : CharClass) : CharClass := or (minus a b) (minus b a)

def plainDigit : CharClass := range 0x30 0x39
def plainSpace : CharClass := ofRanges [(0x9, 0xD), (0x20, 0x20)]
def plainWord : CharClass :=
  ofRanges [(0x30, 0x39), (0x41, 0x5A), (0x5F, 0x5F), (0x61, 0x7A)]

def digit : CharClass := ofCategories [.decimalNumber]
def space : CharClass := ofRanges Text.whiteSpace

/-- Letters, marks, decimal digits, connectors, and the joiners. -/
def word : CharClass := or plainWord (property wordProperty)
where
  wordProperty : Text.Property :=
    ⟨Text.Category.letters ++ Text.Category.marks ++
        [.decimalNumber, .letterNumber, .connectorPunctuation],
      .ofRows ["200C-200D 24B6-24E9 1F130-1F149 1F150-1F169 1F170-1F189"], .empty⟩

/-- The classes named between `[:` and `:]`; they hold characters below 128 only. -/
def posix? : String → Option CharClass
  | "alnum" => some (ofRanges [(0x30, 0x39), (0x41, 0x5A), (0x61, 0x7A)])
  | "alpha" => some (ofRanges [(0x41, 0x5A), (0x61, 0x7A)])
  | "ascii" => some (range 0 0x7F)
  | "blank" => some (ofRanges [(0x9, 0x9), (0x20, 0x20)])
  | "cntrl" => some (ofRanges [(0, 0x1F), (0x7F, 0x7F)])
  | "digit" => some plainDigit
  | "graph" => some (range 0x21 0x7E)
  | "lower" => some (range 0x61 0x7A)
  | "print" => some (range 0x20 0x7E)
  | "punct" => some (ofRanges [(0x21, 0x2F), (0x3A, 0x40), (0x5B, 0x60), (0x7B, 0x7E)])
  | "space" => some plainSpace
  | "upper" => some (range 0x41 0x5A)
  | "word" => some plainWord
  | "xdigit" => some (ofRanges [(0x30, 0x39), (0x41, 0x46), (0x61, 0x66)])
  | _ => Option.none

/-- Names compare without case, blanks, hyphens, underscores, and a leading `is`; but `isc`
keeps it, which is no name of a category. -/
def looseName (s : String) : String :=
  let plain (cs : List Char) : List Char :=
    (cs.filter fun c => c.toNat < 128 && !(c == '_' || c == '-' || c == ' ')).map Char.toLower
  match s.toList with
  | 'i' :: 's' :: rest | 'i' :: 'S' :: rest | 'I' :: 's' :: rest | 'I' :: 'S' :: rest =>
    let rest := plain rest
    .ofList (if rest = ['c'] then ['i', 's', 'c'] else rest)
  | cs => .ofList (plain cs)

def category? : String → Option CharClass
  | "any" => some any
  | "assigned" => some (not (ofCategories [.unassigned]))
  | "ascii" => some (range 0 0x7F)
  | name => (Text.category? name).map ofCategories

/-- The class of a property named alone: yes-or-no properties come first, then categories, then
scripts. Three short names are those of categories, whatever else they abbreviate. -/
def named? (name : String) : Option CharClass :=
  let name := looseName name
  let yesNo := if name = "cf" ∨ name = "sc" ∨ name = "lc" then Option.none
    else Text.namedProperty? name
  match yesNo with
  | some p => some (property p)
  | Option.none =>
    match category? name with
    | some c => some c
    | Option.none => (Text.script? name).map table

/-- The class of a property given with its value. -/
def valued? (name value : String) : Option CharClass :=
  let value := looseName value
  match looseName name with
  | "gc" | "generalcategory" => category? value
  | "sc" | "script" => (Text.script? value).map table
  | _ => Option.none

/-- How many ranges a class is made of, as a measure of its cost. -/
def rangeCount : CharClass → Nat
  | none => 0
  | range _ _ => 1
  | property p => p.also.ranges.size + p.except.ranges.size +
      (p.categories.map fun g => g.set.ranges.size).sum
  | table s => s.ranges.size
  | not c => c.rangeCount + 1
  | or a b => a.rangeCount + b.rangeCount
  | and a b => a.rangeCount + b.rangeCount
  | anyCase _ c => 2 * c.rangeCount

end CharClass
end RecordSearch

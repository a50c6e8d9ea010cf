import RecordSearch.Pattern.CharClass

/-! Pattern expressions and where they can end. The positions of a text of `n` characters are
`0, …, n`, and a set of positions is a list of `n + 1` flags. An expression takes the set of
positions where a match may begin to the set where one may end, which is all that the question
whether a text has a match needs. -/
namespace RecordSearch

/-- Conditions on the characters on both sides of a position. -/
inductive Assertion
  | textStart | textEnd
  | lineStart (carriageReturns : Bool) | lineEnd (carriageReturns : Bool)
  | wordBoundary | notWordBoundary
  | wordStart | wordEnd | wordStartHalf | wordEndHalf
  deriving DecidableEq, Repr

namespace Assertion

/-- Whether a condition holds between two characters; `word` says what belongs to a word. -/
def holds (word : Char → Bool) (before after : Option Char) : Assertion → Bool
  | textStart => before.isNone
  | textEnd => after.isNone
  | lineStart false => before.isNone || before == some '\n'
  | lineEnd false => after.isNone || after == some '\n'
  | lineStart true =>
    before.isNone || before == some '\n' || (before == some '\r' && after != some '\n')
  | lineEnd true =>
    after.isNone || after == some '\r' || (after == some '\n' && before != some '\r')
  | wordBoundary => before.any word != after.any word
  | notWordBoundary => before.any word == after.any word
  | wordStart => !before.any word && after.any word
  | wordEnd => before.any word && !after.any word
  | wordStartHalf => !before.any word
  | wordEndHalf => !after.any word

end Assertion

namespace Pattern

inductive Expr
  | empty
  | one (c : CharClass)
  | look (plain : Bool) (a : Assertion)
  | seq (a b : Expr)
  | alt (a b : Expr)
  | many (a : Expr) (least : Nat) (most : Option Nat)

/-- A text, with the characters before and after each position. -/
structure Subject where
  chars : List Char
  around : List (Option Char × Option Char)

def neighbours (before : Option Char) : List Char → List (Option Char × Option Char)
  | [] => [(before, none)]
  | c :: cs => (before, some c) :: neighbours (some c) cs

def Subject.ofString (s : String) : Subject := ⟨s.toList, neighbours none s.toList⟩

/-- A set of positions of a text. -/
abbrev Positions := List Bool

def Positions.union (a b : Positions) : Positions := List.zipWith (· || ·) a b

/-- Applies a step a number of times, stopping early where it changes nothing. -/
def repeated (step : Positions → Positions) : Nat → Positions → Positions
  | 0, m => m
  | n + 1, m => let next := step m; if next = m then m else repeated step n next

/-- What is reached by at most so many applications of a step. -/
def upTo (step : Positions → Positions) : Nat → Positions → Positions
  | 0, m => m
  | n + 1, m => let next := m.union (step m); if next = m then m else upTo step n next

namespace Expr

/-- The positions where a match can end that begins at one of the given positions. Every round
of an unlimited repetition adds a position, so there are no more rounds than positions. -/
def reach (s : Subject) : Expr → Positions → Positions
  | empty, m => m
  | one c, m => false :: List.zipWith (fun at? x => at? && c.contains x) m s.chars
  | look plain a, m =>
    let word := if plain then CharClass.plainWord.contains else CharClass.word.contains
    List.zipWith (fun at? p => at? && a.holds word p.1 p.2) m s.around
  | seq a b, m => reach s b (reach s a m)
  | alt a b, m => (reach s a m).union (reach s b m)
  | many a least most, m =>
    let start := repeated (reach s a) least m
    match most with
    | none => upTo (reach s a) s.around.length start
    | some n => upTo (reach s a) (n - least) start

/-- Whether some part of a text matches. -/
def isMatch (e : Expr) (s : String) : Bool :=
  let subject := Subject.ofString s
  (e.reach subject (subject.around.map fun _ => true)).any id

def seqAll : List Expr → Expr
  | [] => empty
  | [e] => e
  | e :: es => seq e (seqAll es)

def altAll : List Expr → Expr
  | [] => empty
  | [e] => e
  | e :: es => alt e (altAll es)

/-- A measure of the memory an expression takes when its repetitions are written out. -/
def weight : Expr → Nat
  | empty => 0
  | one c => 32 + 16 * c.rangeCount
  | look _ _ => 32
  | seq a b => a.weight + b.weight
  | alt a b => 32 + a.weight + b.weight
  | many a least most => 32 + a.weight * max 1 (most.getD least)

end Expr
end Pattern
end RecordSearch

import RecordSearch.Declaration.Token

/-! Reading sequences of tokens: views of what comes next, and readers that use it up. -/
namespace RecordSearch

abbrev TokenReader := StateT (List Token) Option

namespace TokenReader
variable {α : Type}

/-- Words that are no names. -/
def keywords : List String :=
  ["_", "abstract", "as", "async", "await", "become", "box", "break", "const", "continue", "crate",
    "do", "dyn", "else", "enum", "extern", "false", "final", "fn", "for", "if", "impl", "in", "let",
    "loop", "macro", "match", "mod", "move", "mut", "override", "priv", "pub", "ref", "return",
    "Self", "self", "static", "struct", "super", "trait", "true", "try", "type", "typeof", "unsafe",
    "unsized", "use", "virtual", "where", "while", "yield"]

/-- Keywords that a path may hold in place of a name. -/
def pathKeywords : List String := ["super", "self", "Self", "crate"]

def startsWord (w : String) : List Token → Bool
  | .word name :: _ => name == w
  | _ => false

def startsOneOf (ws : List String) (ts : List Token) : Bool := ws.any (startsWord · ts)

def startsAnyWord : List Token → Bool
  | .word _ :: _ => true
  | _ => false

def startsName : List Token → Bool
  | .word name :: _ => !keywords.contains name
  | _ => false

/-- Several marks are one operator only if nothing parts them. -/
def startsChars : List Char → List Token → Bool
  | [], _ => true
  | [c], .mark d _ :: _ => c == d
  | c :: cs, .mark d joint :: ts => c == d && joint && startsChars cs ts
  | _, _ => false

def startsMarks (m : String) (ts : List Token) : Bool := startsChars m.toList ts

def startsGroup (d : Delimiter) : List Token → Bool
  | .group e _ :: _ => d == e
  | _ => false

def startsLifetime : List Token → Bool
  | .mark '\'' _ :: .word _ :: _ => true
  | _ => false

def startsNumber : List Token → Bool
  | .literal .number _ :: _ => true
  | _ => false

/-- A literal, a truth value, or a number with a minus sign. -/
def startsLiteral : List Token → Bool
  | .literal _ _ :: _ => true
  | .word name :: _ => name == "true" || name == "false"
  | .mark '-' _ :: .literal .number _ :: _ => true
  | _ => false

/-- What stands behind a word in a path, where arguments could follow. -/
def behindColons (ts : List Token) : List Token := if startsMarks "::" ts then ts.drop 2 else []

def next (f : List Token → Bool) : TokenReader Bool := return f (← get)

def fail : TokenReader α := fun _ => none

def need (b : Bool) : TokenReader Unit := if b then pure () else fail

def advance (n : Nat) : TokenReader Unit := modify (List.drop n)

def anyWord : TokenReader String := do
  match ← get with
  | .word name :: rest =>
    set rest
    return name
  | _ => fail

def name : TokenReader String := do
  need (startsName (← get))
  anyWord

def word (w : String) : TokenReader Unit := do
  need (startsWord w (← get))
  advance 1

def marks (m : String) : TokenReader Unit := do
  need (startsMarks m (← get))
  advance m.length

/-- Uses up a word or some marks if they come next, and says whether they did. -/
def optionalWord (w : String) : TokenReader Bool := do
  let found ← next (startsWord w)
  if found then advance 1
  return found

def optionalMarks (m : String) : TokenReader Bool := do
  let found ← next (startsMarks m)
  if found then advance m.length
  return found

def lifetime : TokenReader Unit := do
  need (startsLifetime (← get))
  advance 2

/-- A literal; one that is a string alone gives its value. -/
def literal : TokenReader (Option String) := do
  let ts ← get
  need (startsLiteral ts)
  match ts with
  | .literal (.text value) _ :: rest =>
    set rest
    return some value
  | .mark _ _ :: _ =>
    advance 2
    return none
  | _ =>
    advance 1
    return none

/-- Reads all of a sequence. -/
def all (p : TokenReader α) : TokenReader α := do
  let a ← p
  need (← get).isEmpty
  return a

/-- Reads all of the inside of a group. -/
def group (d : Delimiter) (p : TokenReader α) : TokenReader α := do
  match ← get with
  | .group e inside :: rest =>
    need (d == e)
    set rest
    let (a, _) ← (all p).run inside
    return a
  | _ => fail

/-- The inside of a group, whatever it is. -/
def anyGroup : TokenReader (List Token) := do
  match ← get with
  | .group _ inside :: rest =>
    set rest
    return inside
  | _ => fail

def untilEnd (p : TokenReader α) : Nat → TokenReader (List α)
  | 0 => fail
  | fuel + 1 => do
    if (← get).isEmpty then return []
    let a ← p
    if (← get).isEmpty then return [a]
    marks ","
    return a :: (← untilEnd p fuel)

/-- Everything to the end, parted by commas; a comma may stand at the end too. -/
def list (p : TokenReader α) : TokenReader (List α) := do untilEnd p ((← get).length + 1)

def upTo (p : TokenReader α) (stop : List Token → Bool) (mark : String) :
    Nat → TokenReader (List α)
  | 0 => fail
  | fuel + 1 => do
    if ← next stop then return []
    let a ← p
    if !(← next (startsMarks mark)) then return [a]
    marks mark
    return a :: (← upTo p stop mark fuel)

/-- Parts with a mark between them, up to where a further one cannot start or does not follow. -/
def parted (p : TokenReader α) (stop : List Token → Bool) (mark : String) :
    TokenReader (List α) := do
  upTo p stop mark ((← get).length + 1)

/-- The text of what a reader uses up, too. -/
def written (p : TokenReader α) : TokenReader (String × α) := do
  let before ← get
  let a ← p
  let after ← get
  return (Token.text (before.take (before.length - after.length)), a)

end TokenReader
end RecordSearch

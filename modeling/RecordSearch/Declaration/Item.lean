import RecordSearch.Declaration.Grammar
import RecordSearch.Declaration.Lexer

/-! Reading declarations from text: a structure, an enumeration or a union with its attributes,
parameters and fields. -/
namespace RecordSearch

open TokenReader

namespace Grammar

/-- What follows the name of an attribute or of one of its items. -/
inductive AttributeForm
  | plain
  | list (inside : List Token)
  | assign (value? : Option String)

/-- The value behind an equals sign. -/
def attributeValue (n : Nat) : TokenReader (Option String) := do
  let ts ← get
  if startsLiteral ts && (ts.drop (if startsMarks "-" ts then 2 else 1)).isEmpty then literal
  else if startsMarks "#" ts && startsGroup .bracket ts.tail then fail
  else expression n

/-- The inside of an attribute, or one of its items. -/
def attributeForm (n : Nat) : TokenReader (Option String × AttributeForm) := do
  let name? ← if ← optionalWord "unsafe" then pure (some "unsafe") else namePath
  match ← get with
  | .group _ inside :: rest =>
    set rest
    return (name?, .list inside)
  | ts =>
    if startsMarks "=" ts then
      marks "="
      return (name?, .assign (← attributeValue n))
    else return (name?, .plain)

def item (n : Nat) : TokenReader AttributeItem := do
  let (name?, form) ← attributeForm n
  match form with
  | .plain => return .word name?
  | .list _ => return .list
  | .assign value? => return .assign name? value?

def items? (n : Nat) (inside : List Token) : Option (List AttributeItem) :=
  ((all (list (item n))).run inside).map Prod.fst

def attributes (n : Nat) : Nat → TokenReader (List Attribute)
  | 0 => fail
  | fuel + 1 => do
    if ← optionalMarks "#" then
      let (name?, form) ← group .bracket (attributeForm n)
      let given := match form with
        | .list inside => items? n inside
        | _ => none
      return ⟨name?, given⟩ :: (← attributes n fuel)
    else return []

def outerAttributes (n : Nat) : TokenReader (List Attribute) := do
  attributes n ((← get).length + 1)

/-- How far a declaration can be seen. Parentheses that restrict nothing start a type. -/
def visibility : TokenReader Unit := do
  if ← optionalWord "pub" then
    match ← get with
    | .group .paren inside :: rest =>
      if startsOneOf ["crate", "self", "super"] inside then
        if inside.length = 1 then set rest
      else if startsWord "in" inside then
        group .paren do
          word "in"
          let _ ← namePath
    | _ => return

def parameter (n : Nat) : TokenReader Unit := do
  let _ ← outerAttributes n
  let ts ← get
  if startsLifetime ts then boundedLifetime
  else if startsWord "const" ts then
    word "const"
    let _ ← name
    marks ":"
    let _ ← type n true
    if ← optionalMarks "=" then constant n
  else
    if !(← optionalWord "_") then
      let _ ← name
    if ← optionalMarks ":" then
      let _ ← parted (bound n) endsParameterBounds "+"
    if ← optionalMarks "=" then
      let _ ← type n true

/-- Parameters in angle brackets, if there are any. -/
def parameters (n : Nat) : TokenReader Unit := do
  if ← optionalMarks "<" then
    let _ ← parted (parameter n) (startsMarks ">") ","
    marks ">"

def endsConditions (ts : List Token) : Bool :=
  ts.isEmpty || startsGroup .brace ts || startsMarks "," ts || startsMarks ";" ts ||
    startsMarks ":" ts && !startsMarks "::" ts || startsMarks "=" ts

def condition (n : Nat) : TokenReader Unit := do
  let ts ← get
  if startsLifetime ts && startsMarks ":" (ts.drop 2) then
    lifetime
    marks ":"
    let _ ← parted lifetime endsConditions "+"
  else
    let _ ← optionalBoundLifetimes
    let _ ← type n true
    marks ":"
    let _ ← parted (bound n) endsConditions "+"

/-- Conditions on the parameters, if there are any. -/
def conditions (n : Nat) : TokenReader Unit := do
  if ← optionalWord "where" then
    let _ ← parted (condition n) endsConditions ","

def namedField (n : Nat) : TokenReader FieldDeclaration := do
  let given ← outerAttributes n
  visibility
  let ident ← if ← next (startsWord "_") then anyWord else name
  marks ":"
  return ⟨ident, ← type n true, given⟩

def unnamedField (n : Nat) : TokenReader Unit := do
  let _ ← outerAttributes n
  visibility
  let _ ← type n true

def namedFields (n : Nat) : TokenReader (List FieldDeclaration) :=
  group .brace (list (namedField n))

def unnamedFields (n : Nat) : TokenReader Unit := do
  let _ ← group .paren (list (unnamedField n))

def structureBody (n : Nat) : TokenReader Declaration := do
  let early ← next (startsWord "where")
  conditions n
  if ← next (startsGroup .brace) then return .named (← namedFields n)
  else
    if !early && (← next (startsGroup .paren)) then
      unnamedFields n
      conditions n
    marks ";"
    return .unnamed

/-- An alternative of an enumeration. -/
def variant (n : Nat) : TokenReader Unit := do
  let _ ← outerAttributes n
  visibility
  let _ ← name
  let ts ← get
  if startsGroup .brace ts then
    let _ ← namedFields n
  else if startsGroup .paren ts then unnamedFields n
  if ← optionalMarks "=" then
    let _ ← expression n

def declaration (n : Nat) : TokenReader Declaration := do
  let _ ← outerAttributes n
  visibility
  if ← optionalWord "struct" then
    let _ ← name
    parameters n
    structureBody n
  else if ← optionalWord "enum" then
    let _ ← name
    parameters n
    conditions n
    let _ ← group .brace (list (variant n))
    return .notStructure
  else
    word "union"
    let _ ← name
    parameters n
    conditions n
    let _ ← namedFields n
    return .notStructure

/-- More nesting than a text of a length can have: no construct of the grammar takes more steps
for one character. -/
def nestingBound (s : String) : Nat := 64 * (s.length + 1)

end Grammar

/-- Reads one declaration. -/
def Declaration.read? (s : String) : Option Declaration := do
  let tokens ← Lexer.tokens? s
  let (d, _) ← (all (Grammar.declaration (Grammar.nestingBound s))).run tokens
  return d

/-- Reads what stands between the parentheses of an attribute. -/
def AttributeItem.readAll? (s : String) : Option (List AttributeItem) := do
  Grammar.items? (Grammar.nestingBound s) (← Lexer.tokens? s)

end RecordSearch

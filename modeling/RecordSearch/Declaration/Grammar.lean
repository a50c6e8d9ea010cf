import RecordSearch.Declaration
import RecordSearch.Declaration.TokenReader

/-! Types and expressions as they occur in declarations. A type gives what is looked at later; an
expression is read for where it ends, and gives its value if it is a string literal alone. What
stands in a block, or as the arguments of a call by macro, is not looked into. Fuel bounds the
depth of nesting. -/
namespace RecordSearch.Grammar

open TokenReader

/-- What is known of a path. -/
structure PathShape where
  /-- The last name, and its first argument if that is a type. -/
  name : String
  argument? : Option DeclaredType
  /-- No name has arguments. -/
  plain : Bool
  /-- The last name has no arguments. -/
  bare : Bool
  /-- There is one name, and nothing before it. -/
  single : Bool

namespace PathShape

def ofName (name : String) : PathShape := ⟨name, none, true, true, true⟩

/-- A path continued by a further part. -/
def extend (p q : PathShape) : PathShape := { q with plain := p.plain && q.plain, single := false }

end PathShape

/-- What is known of a type: the shape of a path, and whether it names its own meaning, with
arguments in angle brackets at most. -/
structure TypeShape where
  path? : Option PathShape
  simple : Bool

def TypeShape.other : TypeShape := ⟨none, false⟩

def TypeShape.type (s : TypeShape) (text : String) : DeclaredType :=
  match s.path? with
  | some p => .path text p.name p.argument?
  | none => .other text

/-- Whether a further bound could start. -/
def startsBound (ts : List Token) : Bool :=
  startsAnyWord ts || startsMarks "::" ts || startsMarks "?" ts || startsLifetime ts ||
    startsGroup .paren ts

/-- Where the bounds of a parameter in angle brackets end. -/
def endsParameterBounds (ts : List Token) : Bool :=
  startsMarks "," ts || startsMarks ">" ts || startsMarks "=" ts

/-- A lifetime with its bounds. -/
def boundedLifetime : TokenReader Unit := do
  lifetime
  if ← optionalMarks ":" then
    let _ ← parted lifetime (fun ts => startsMarks "," ts || startsMarks ">" ts) "+"

/-- Attributes where nothing looks at them. -/
def passAttributes : Nat → TokenReader Unit
  | 0 => fail
  | fuel + 1 => do
    if ← optionalMarks "#" then
      need (← next (startsGroup .bracket))
      advance 1
      passAttributes fuel

/-- The lifetimes that a type or bound speaks for. -/
def boundLifetimes : TokenReader Unit := do
  word "for"
  marks "<"
  let _ ← parted boundedLifetime (startsMarks ">") ","
  marks ">"

def optionalBoundLifetimes : TokenReader Bool := do
  let found ← next (startsWord "for")
  if found then boundLifetimes
  return found

/-- A path of names alone; its last name if it is the only one and nothing is before it. -/
def namePath : TokenReader (Option String) := do
  let rooted ← optionalMarks "::"
  let part : TokenReader String := do
    need (← next fun ts => startsName ts || startsOneOf pathKeywords ts)
    anyWord
  let first ← part
  let rec more : Nat → TokenReader Bool
    | 0 => fail
    | fuel + 1 => do
      if ← optionalMarks "::" then
        let _ ← part
        let _ ← more fuel
        return true
      else return false
  let longer ← more ((← get).length + 1)
  return if rooted || longer then none else some first

/-- Operators between two operands, longer ones before those they start with. -/
def operators : List String :=
  ["<<=", ">>=", "&&", "||", "<<", ">>", "==", "<=", "!=", ">=", "+=", "-=", "*=", "/=", "%=", "^=",
    "&=", "|=", "+", "-", "*", "/", "%", "^", "&", "|", "<", ">"]

/-- Words that a block may follow at once. -/
def blockWords : List String := ["unsafe", "async", "const", "loop", "try", "move"]

/-- Everything before a block, and the block. -/
def throughBlock : Nat → TokenReader Unit
  | 0 => fail
  | fuel + 1 => do
    need (!(← get).isEmpty)
    let found ← next (startsGroup .brace)
    advance 1
    if !found then throughBlock fuel

/-- The parameters of a closure, from behind the first bar. -/
def closureParameters : Nat → TokenReader Unit
  | 0 => fail
  | fuel + 1 => do
    if ← optionalMarks "|" then return
    need (!(← get).isEmpty)
    advance 1
    closureParameters fuel

def block : TokenReader Unit := do
  need (← next (startsGroup .brace))
  advance 1

/-- Where the operand that a range, a return or a break may have cannot start. -/
def endsOperand (ts : List Token) : Bool :=
  ts.isEmpty || startsMarks "," ts || startsMarks ";" ts || startsMarks "=>" ts

mutual

def type : Nat → Bool → TokenReader DeclaredType
  | 0, _ => fail
  | n + 1, plus => return (← shapedType n plus).1

/-- A type with what is known of it; bounds may be added to it or not. -/
def shapedType : Nat → Bool → TokenReader (DeclaredType × TypeShape)
  | 0, _ => fail
  | n + 1, plus => do
    let (text, shape) ← written (typeShape n plus)
    return (shape.type text, shape)

def typeShape : Nat → Bool → TokenReader TypeShape
  | 0, _ => fail
  | n + 1, plus => do
    let quantified ← optionalBoundLifetimes
    let ts ← get
    let startsPath := startsName ts || startsOneOf pathKeywords ts
    let startsFunction := startsOneOf ["fn", "unsafe", "extern"] ts
    need (!quantified || startsPath || startsFunction || startsWord "dyn" ts)
    if startsGroup .paren ts then
      enclosedType n plus
      return .other
    else if startsFunction then
      functionType n
      return .other
    else if startsPath || startsMarks "::" ts || startsMarks "<" ts then
      let qualified := startsMarks "<" ts
      let (p, angled) ← typePath n
      let ts ← get
      if qualified then return ⟨some p, false⟩
      else if startsMarks "!" ts && !startsMarks "!=" ts && p.plain then
        marks "!"
        let _ ← anyGroup
        return .other
      else if quantified || plus && startsMarks "+" ts then
        if plus then furtherBounds n
        return .other
      else return ⟨some p, p.single && angled⟩
    else if startsWord "dyn" ts then
      word "dyn"
      let _ ← optionalMarks "*"
      traitBounds n plus
      return .other
    else if startsGroup .bracket ts then
      group .bracket do
        let _ ← type n true
        if ← optionalMarks ";" then
          let _ ← expression n
      return .other
    else if startsMarks "*" ts then
      marks "*"
      if !(← optionalWord "const") then word "mut"
      let _ ← type n false
      return .other
    else if startsMarks "&" ts then
      marks "&"
      if startsLifetime (← get) then lifetime
      let _ ← optionalWord "mut"
      let _ ← type n false
      return .other
    else if startsMarks "!" ts && !startsMarks "!=" ts then
      marks "!"
      return .other
    else if startsWord "impl" ts then
      word "impl"
      traitBounds n plus
      return .other
    else if startsWord "_" ts then
      word "_"
      return .other
    else if startsLifetime ts then
      traitBounds n plus
      return .other
    else fail

/-- A type in parentheses, a tuple, or bounds that start with parentheses. -/
def enclosedType : Nat → Bool → TokenReader Unit
  | 0, _ => fail
  | n + 1, plus => do
    let bounds ← group .paren do
      if (← get).isEmpty then return false
      else if ← next startsLifetime then
        traitBounds n true
        return false
      else if ← next (startsMarks "?") then
        let _ ← bound n
        return true
      else
        let (_, shape) ← shapedType n true
        if ← optionalMarks "," then
          let _ ← list (type n true)
          return false
        else return shape.path?.isSome
    if bounds && plus && (← next (startsMarks "+")) then furtherBounds n

def functionType : Nat → TokenReader Unit
  | 0 => fail
  | n + 1 => do
    let _ ← optionalWord "unsafe"
    if ← optionalWord "extern" then
      if ← next startsLiteral then
        let _ ← literal
    word "fn"
    group .paren do
      let _ ← list (functionParameter n)
    result n

def functionParameter : Nat → TokenReader Unit
  | 0 => fail
  | n + 1 => do
    passAttributes ((← get).length + 1)
    let ts ← get
    let named := startsAnyWord ts && startsMarks ":" ts.tail && !startsMarks "::" ts.tail
    if named then
      let _ ← anyWord
      marks ":"
    if !(← optionalMarks "...") then
      let _ ← type n true

/-- What a function gives, if that is said. -/
def result : Nat → TokenReader Unit
  | 0 => fail
  | n + 1 => do
    if ← optionalMarks "->" then
      let _ ← type n false

/-- One bound; whether it is more than a lifetime. -/
def bound : Nat → TokenReader Bool
  | 0 => fail
  | n + 1 => do
    if ← next startsLifetime then
      lifetime
      return false
    else if ← next (startsGroup .paren) then
      group .paren (traitBound n)
      return true
    else
      traitBound n
      return true

def traitBound : Nat → TokenReader Unit
  | 0 => fail
  | n + 1 => do
    if ← optionalMarks "~" then word "const"
    let quantified ← optionalBoundLifetimes
    let maybe ← optionalMarks "?"
    if maybe && !quantified then
      let _ ← optionalBoundLifetimes
    let p ← path n false
    if p.bare then
      let ts ← get
      if startsGroup .paren ts then parenthesized n
      else if startsGroup .paren (behindColons ts) then
        marks "::"
        parenthesized n

/-- The bounds of a type, of which one must be more than a lifetime. -/
def traitBounds : Nat → Bool → TokenReader Unit
  | 0, _ => fail
  | n + 1, plus => do
    if plus then
      let bounds ← parted (bound n) (fun ts => !startsBound ts && !startsWord "for" ts) "+"
      need (bounds.any id)
    else need (← bound n)

/-- Bounds behind a first one. -/
def furtherBounds : Nat → TokenReader Unit
  | 0 => fail
  | n + 1 => do
    if ← optionalMarks "+" then
      let _ ← parted (bound n) (fun ts => !startsBound ts) "+"

/-- The path of a type, and whether all its arguments are in angle brackets. -/
def typePath : Nat → TokenReader (PathShape × Bool)
  | 0 => fail
  | n + 1 => do calledPath n (← path n false) true

/-- Arguments in parentheses behind a path, and what they may be followed by. -/
def calledPath : Nat → PathShape → Bool → TokenReader (PathShape × Bool)
  | 0, _, _ => fail
  | n + 1, p, angled => do
    let ts ← get
    let direct := startsGroup .paren ts
    if p.bare && (direct || startsGroup .paren (behindColons ts)) then
      if !direct then marks "::"
      let _ ← group .paren (list (type n true))
      let p := { p with plain := false, bare := false, argument? := none }
      if ← next (startsMarks "->") then
        result n
        return (p, false)
      else calledPath n (← pathRest n false p) false
    else return (p, angled)

def parenthesized : Nat → TokenReader Unit
  | 0 => fail
  | n + 1 => do
    let _ ← group .paren (list (type n true))
    result n

/-- A path; in an expression, arguments stand behind a double colon. -/
def path : Nat → Bool → TokenReader PathShape
  | 0, _ => fail
  | n + 1, inExpression => do
    if ← optionalMarks "<" then
      let _ ← type n true
      if ← optionalWord "as" then
        let _ ← typePath n
      marks ">"
      marks "::"
      let parts ← parted (segment n inExpression) (fun _ => false) "::"
      match parts.getLast? with
      | some last => return { last with plain := false, single := false }
      | none => fail
    else
      let rooted ← optionalMarks "::"
      let p ← segment n inExpression
      pathRest n inExpression { p with single := !rooted }

def pathRest : Nat → Bool → PathShape → TokenReader PathShape
  | 0, _, _ => fail
  | n + 1, inExpression, p => do
    let ts ← get
    if startsMarks "::" ts && !startsGroup .paren (ts.drop 2) then
      marks "::"
      pathRest n inExpression (p.extend (← segment n inExpression))
    else return p

def segment : Nat → Bool → TokenReader PathShape
  | 0, _ => fail
  | n + 1, inExpression => do
    if ← next (startsOneOf ["super", "self", "crate", "try"]) then return .ofName (← anyWord)
    let ident ← if ← next (startsWord "Self") then anyWord else name
    let ts ← get
    let direct := !inExpression && startsMarks "<" ts && !startsMarks "<=" ts
    if direct || startsMarks "<" (behindColons ts) then
      let _ ← optionalMarks "::"
      return ⟨ident, ← arguments n, false, false, true⟩
    else return .ofName ident

/-- Arguments in angle brackets; the first one, if it is a type. -/
def arguments : Nat → TokenReader (Option DeclaredType)
  | 0 => fail
  | n + 1 => do
    marks "<"
    let given ← parted (argument n) (startsMarks ">") ","
    marks ">"
    return given.head?.join

def argument : Nat → TokenReader (Option DeclaredType)
  | 0 => fail
  | n + 1 => do
    let ts ← get
    if startsLifetime ts && !startsMarks "+" (ts.drop 2) then
      lifetime
      return none
    else if startsLiteral ts || startsGroup .brace ts then
      constant n
      return none
    else
      let (t, shape) ← shapedType n true
      if shape.simple then
        if ← optionalMarks "=" then
          if ← next fun ts => startsLiteral ts || startsGroup .brace ts then constant n
          else
            let _ ← type n true
          return none
        else if ← optionalMarks ":" then
          let _ ← parted (bound n) (fun ts => startsMarks "," ts || startsMarks ">" ts) "+"
          return none
        else return some t
      else return some t

/-- A constant as an argument or a default. -/
def constant : Nat → TokenReader Unit
  | 0 => fail
  | _ + 1 => do
    if ← next startsLiteral then
      let _ ← literal
    else if ← next startsName then
      let _ ← name
    else block

def expression : Nat → TokenReader (Option String)
  | 0 => fail
  | n + 1 => do
    let value ← operand n
    if ← operations n then return none
    return value

/-- Operators with their right operands; whether there are any. -/
def operations : Nat → TokenReader Bool
  | 0 => fail
  | n + 1 => do
    let ts ← get
    if startsMarks ".." ts then
      range n
      return true
    else if startsWord "as" ts then
      word "as"
      let _ ← type n false
      let _ ← operations n
      return true
    else
      match operators.find? (startsMarks · ts) with
      | some op =>
        marks op
        let _ ← operand n
        let _ ← operations n
        return true
      | none =>
        if startsMarks "=" ts && !startsMarks "=>" ts then
          marks "="
          let _ ← expression n
          return true
        else return false

/-- A range from its dots on. -/
def range : Nat → TokenReader Unit
  | 0 => fail
  | n + 1 => do
    if ← optionalMarks "..=" then
      let _ ← operand n
      let _ ← operations n
    else
      marks ".."
      if !(← next endsOperand) then
        let _ ← operand n
        let _ ← operations n

/-- An operand with the operators before it. -/
def operand : Nat → TokenReader (Option String)
  | 0 => fail
  | n + 1 => do
    passAttributes ((← get).length + 1)
    let ts ← get
    if startsMarks "&" ts then
      marks "&"
      let _ ← optionalWord "mut"
      let _ ← operand n
      return none
    else if startsMarks "*" ts || startsMarks "!" ts || startsMarks "-" ts then
      advance 1
      let _ ← operand n
      return none
    else
      let value ← atom n
      if ← trailers n then return none
      return value

/-- Calls, members and indices behind an atom; whether there are any. -/
def trailers : Nat → TokenReader Bool
  | 0 => fail
  | n + 1 => do
    let ts ← get
    if startsGroup .paren ts then
      let _ ← group .paren (list (expression n))
      let _ ← trailers n
      return true
    else if startsGroup .bracket ts then
      let _ ← group .bracket (expression n)
      let _ ← trailers n
      return true
    else if startsMarks "?" ts then
      marks "?"
      let _ ← trailers n
      return true
    else if startsMarks "." ts && !startsMarks ".." ts then
      marks "."
      if ← next fun ts => startsWord "await" ts || startsNumber ts then advance 1
      else
        let _ ← name
        if ← optionalMarks "::" then
          let _ ← arguments n
          need (← next (startsGroup .paren))
      let _ ← trailers n
      return true
    else return false

def atom : Nat → TokenReader (Option String)
  | 0 => fail
  | n + 1 => do
    let ts ← get
    if startsLiteral ts then literal
    else if startsGroup .paren ts then
      let _ ← group .paren (list (expression n))
      return none
    else if startsGroup .bracket ts then
      group .bracket do
        if !(← get).isEmpty then
          let _ ← expression n
          if ← optionalMarks ";" then
            let _ ← expression n
          else if ← optionalMarks "," then
            let _ ← list (expression n)
      return none
    else if startsGroup .brace ts then
      block
      return none
    else if startsMarks "|" ts || startsWord "move" ts && startsMarks "|" ts.tail then
      let _ ← optionalWord "move"
      marks "|"
      closureParameters (ts.length + 1)
      if ← optionalMarks "->" then
        let _ ← type n false
        block
      else
        let _ ← expression n
      return none
    else if startsOneOf blockWords ts then
      let _ ← anyWord
      let _ ← optionalWord "move"
      block
      return none
    else if startsOneOf ["if", "while", "match", "for"] ts then
      let conditional := startsWord "if" ts
      throughBlock ts.length
      if conditional && (← optionalWord "else") then
        let _ ← atom n
      return none
    else if startsOneOf ["return", "break"] ts then
      let _ ← anyWord
      if !(← next endsOperand) then
        let _ ← expression n
      return none
    else if startsOneOf ["continue", "_"] ts then
      let _ ← anyWord
      return none
    else if startsMarks ".." ts then
      range n
      return none
    else
      let p ← path n true
      let ts ← get
      if startsMarks "!" ts && !startsMarks "!=" ts && p.plain then
        marks "!"
        let _ ← anyGroup
      else if startsGroup .brace ts then block
      return none

end

end RecordSearch.Grammar

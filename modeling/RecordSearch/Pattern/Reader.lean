import RecordSearch.Pattern.Expr

/-! Reading patterns. A pattern is alternatives of sequences of repeated pieces; a piece is a
character, an escape, a class in brackets, or a group, and a group may set flags. -/
namespace RecordSearch.Pattern

/-- Why a text is no pattern. -/
inductive Problem
  | unclosedGroup | unopenedGroup | unknownFlag | repeatedFlag | danglingNegation
  | badGroupName | repeatedGroupName | lookAround
  | unfinishedEscape | unknownEscape | backreference | badCodePoint | unknownBoundary
  | nothingToRepeat | badCount | unclosedCount
  | unclosedClass | badRange | badClassMember | unknownProperty
  | notText | tooDeep | tooLarge
  deriving DecidableEq, Repr

/-- The flags in force. -/
structure Flags where
  ignoreCase : Bool
  multiLine : Bool
  dotAll : Bool
  carriageReturns : Bool
  plain : Bool
  spaced : Bool
  deriving Repr

def Flags.initial : Flags := ⟨false, false, false, false, false, false⟩

/-- What is left to read, the flags, and the group names used so far. -/
structure Cursor where
  rest : List Char
  flags : Flags
  names : List String

abbrev Reader := StateT Cursor (Except Problem)

/-- An expression with the depth of its nesting. -/
structure Node where
  expr : Expr
  depth : Nat

namespace Reader

def peek : Reader (Option Char) := return (← get).rest.head?

def peekSecond : Reader (Option Char) := return (← get).rest.tail.head?

def setRest (rest : List Char) : Reader Unit := modify fun s => { s with rest }

def bump : Reader Unit := modify fun s => { s with rest := s.rest.tail }

def skipComment (cs : List Char) : List Char := (cs.dropWhile (· != '\n')).tail

/-- Blanks and comments mean nothing in the spaced form. -/
def dropSpace (fuel : Nat) (cs : List Char) : List Char :=
  match fuel, cs with
  | fuel + 1, c :: rest =>
    if Text.isBlankChar c then dropSpace fuel rest
    else if c == '#' then dropSpace fuel (skipComment rest)
    else c :: rest
  | _, cs => cs

def afterSpace (s : Cursor) : List Char :=
  if s.flags.spaced then dropSpace s.rest.length s.rest else s.rest

def skipSpace : Reader Unit := modify fun s => { s with rest := afterSpace s }

def bumpSpace : Reader Unit := do bump; skipSpace

/-- The next character, which must exist. -/
def need (p : Problem) : Reader Char := do
  match ← peek with
  | some c => return c
  | none => throw p

def flags : Reader Flags := return (← get).flags

end Reader

open Reader

def isHexDigit (c : Char) : Bool :=
  c.isDigit || ('a' ≤ c && c ≤ 'f') || ('A' ≤ c && c ≤ 'F')

def hexValue (c : Char) : Nat :=
  if c.isDigit then c.toNat - '0'.toNat
  else if c.toNat < 'a'.toNat then c.toNat - 'A'.toNat + 10
  else c.toNat - 'a'.toNat + 10

/-- A code point that is a character. -/
def scalarChar (n : Nat) : Reader Char :=
  if h : n.isValidChar then return Char.ofNatAux n h else throw .badCodePoint

/-- A fixed number of hexadecimal digits. -/
def fixedHex : Nat → Nat → Reader Nat
  | 0, acc => return acc
  | n + 1, acc => do
    let c ← need .unfinishedEscape
    if !isHexDigit c then throw .badCodePoint
    bumpSpace
    fixedHex n (16 * acc + hexValue c)

/-- Hexadecimal digits up to the closing brace. -/
def bracedHex : Nat → Nat → Nat → Reader Nat
  | 0, _, _ => throw .unfinishedEscape
  | fuel + 1, count, acc => do
    let c ← need .unfinishedEscape
    bumpSpace
    if c == '\x7d' then
      if count == 0 then throw .badCodePoint else return acc
    else if !isHexDigit c then throw .badCodePoint
    else bracedHex fuel (count + 1) (min (16 * acc + hexValue c) 0x110000)

/-- What one escape or plain character stands for. -/
inductive Piece
  | char (c : Char)
  /-- A two-digit escape, which is a byte where text is not read as characters. -/
  | byte (c : Char)
  | set (c : CharClass)
  | dot
  | assertion (a : Assertion)

def hexEscape (digits : Nat) : Reader Piece := do
  bumpSpace
  match ← need .unfinishedEscape with
  | '\x7b' =>
    bumpSpace
    let n ← bracedHex (← get).rest.length.succ 0 0
    return .char (← scalarChar n)
  | _ =>
    let c ← scalarChar (← fixedHex digits 0)
    return if digits = 2 then .byte c else .char c

def negateIf (negated : Bool) (c : CharClass) : CharClass := if negated then .not c else c

def foldCase (f : Flags) (c : CharClass) : CharClass :=
  if f.ignoreCase then .anyCase f.plain c else c

/-- Splits `name != value`, `name : value` and `name = value`. -/
def splitProperty (cs : List Char) : Option (Bool × List Char × List Char) :=
  let rec unequal : List Char → List Char → Option (List Char × List Char)
    | '!' :: '=' :: rest, before => some (before.reverse, rest)
    | c :: rest, before => unequal rest (c :: before)
    | [], _ => none
  match unequal cs [] with
  | some (name, value) => some (true, name, value)
  | none =>
    let split (sep : Char) : Option (Bool × List Char × List Char) :=
      if cs.contains sep then
        some (false, cs.takeWhile (· != sep), (cs.dropWhile (· != sep)).tail)
      else none
    (split ':').orElse fun _ => split '='

/-- The characters up to the closing brace. -/
def bracedName : Nat → List Char → Reader (List Char)
  | 0, _ => throw .unfinishedEscape
  | fuel + 1, acc => do
    match ← need .unfinishedEscape with
    | '\x7d' => bump; return acc.reverse
    | c => bumpSpace; bracedName fuel (c :: acc)

/-- A property, behind `p` or `P`. -/
def propertyEscape (negated : Bool) : Reader Piece := do
  bumpSpace
  let f ← flags
  let found ← match ← need .unfinishedEscape with
    | '\x7b' => do
      bumpSpace
      let cs ← bracedName (← get).rest.length.succ []
      match splitProperty cs with
      | some (unequal, name, value) =>
        pure ((CharClass.valued? (.ofList name) (.ofList value)).map (negateIf unequal))
      | none => pure (CharClass.named? (.ofList cs))
    | '\\' => throw .unknownProperty
    | c => do bumpSpace; pure (CharClass.named? (.singleton c))
  if f.plain then throw .notText
  match found with
  | some c => return .set (negateIf negated (foldCase f c))
  | none => throw .unknownProperty

def kindClass (f : Flags) (c : Char) : CharClass :=
  let set := match c.toLower with
    | 'd' => if f.plain then CharClass.plainDigit else CharClass.digit
    | 's' => if f.plain then CharClass.plainSpace else CharClass.space
    | _ => if f.plain then CharClass.plainWord else CharClass.word
  negateIf c.isUpper set

def isBoundaryLetter (c : Char) : Bool := c.isAlpha || c == '-'

def boundaryName : Nat → List Char → Reader (List Char)
  | 0, acc => return acc.reverse
  | fuel + 1, acc => do
    match ← peek with
    | some c =>
      if isBoundaryLetter c then bumpSpace; boundaryName fuel (c :: acc) else return acc.reverse
    | none => return acc.reverse

/-- A named boundary in braces behind `\b`; braces around anything else are a repetition. -/
def boundary : Reader Assertion := do
  match ← peek with
  | some '\x7b' =>
    let start ← get
    bumpSpace
    let c ← need .unfinishedEscape
    if !isBoundaryLetter c then
      set start
      return .wordBoundary
    let name ← boundaryName (← get).rest.length []
    match ← peek with
    | some '\x7d' =>
      bump
      match String.ofList name with
      | "start" => return .wordStart
      | "end" => return .wordEnd
      | "start-half" => return .wordStartHalf
      | "end-half" => return .wordEndHalf
      | _ => throw .unknownBoundary
    | _ => throw .unknownBoundary
  | _ => return .wordBoundary

/-- Every plain sign may be escaped, and no letter, digit or foreign character. -/
def isEscapable (c : Char) : Bool :=
  c.toNat < 128 && !c.isAlphanum && c != '<' && c != '>'

def escape : Reader Piece := do
  bump
  let c ← need .unfinishedEscape
  match c with
  | 'x' => hexEscape 2
  | 'u' => hexEscape 4
  | 'U' => hexEscape 8
  | 'p' => propertyEscape false
  | 'P' => propertyEscape true
  | _ =>
    bump
    if c.isDigit then throw .backreference
    if isEscapable c then return .char c
    match c with
    | 'd' | 's' | 'w' | 'D' | 'S' | 'W' => return .set (kindClass (← flags) c)
    | 'a' => return .char '\x07'
    | 'f' => return .char '\x0c'
    | 't' => return .char '\t'
    | 'n' => return .char '\n'
    | 'r' => return .char '\r'
    | 'v' => return .char '\x0b'
    | 'A' => return .assertion .textStart
    | 'z' => return .assertion .textEnd
    | 'b' => return .assertion (← boundary)
    | 'B' => return .assertion .notWordBoundary
    | '<' => return .assertion .wordStart
    | '>' => return .assertion .wordEnd
    | _ => throw .unknownEscape

def primitive : Reader Piece := do
  let f ← flags
  match ← need .unfinishedEscape with
  | '\\' => escape
  | '.' => bump; return .dot
  | '^' =>
    bump
    return .assertion (if f.multiLine then .lineStart f.carriageReturns else .textStart)
  | '$' =>
    bump
    return .assertion (if f.multiLine then .lineEnd f.carriageReturns else .textEnd)
  | c => bump; return .char c

/-- Where text is not read as characters, a class must not hold what is no plain character. -/
def plainChecked (f : Flags) (c : CharClass) : Reader CharClass :=
  if f.plain && (List.range 128).any (fun n => c.has (128 + n)) then throw .notText else return c

def charExpr (f : Flags) (c : Char) : Expr :=
  if f.ignoreCase && (!f.plain || c.toNat < 128) then .one (.anyCase f.plain (.single c))
  else .one (.single c)

def Piece.expr (f : Flags) : Piece → Reader Expr
  | .char c => return charExpr f c
  | .byte c => if f.plain && 128 ≤ c.toNat then throw .notText else return charExpr f c
  | .set c => return .one (← plainChecked f c)
  | .dot =>
    if f.plain then throw .notText
    else if f.dotAll then return .one .any
    else if f.carriageReturns then return .one (.not (.or (.single '\n') (.single '\r')))
    else return .one (.not (.single '\n'))
  | .assertion a => return .look f.plain a

/-- The operators between parts of a class, all of one rank and grouped from the left. -/
inductive ClassOp
  | both | minus | oneOnly

/-- The operand to the left of an operator, with the operator. -/
abbrev Pending := Option (CharClass × ClassOp)

def combine (f : Flags) (pending : Pending) (right : CharClass) : CharClass :=
  match pending with
  | none => right
  | some (left, op) =>
    let left := foldCase f left
    let right := foldCase f right
    match op with
    | .both => .and left right
    | .minus => .minus left right
    | .oneOnly => .symmetricDifference left right

def rangeEnd (f : Flags) : Piece → Reader Nat
  | .char c => if f.plain && 128 ≤ c.toNat then throw .notText else return c.toNat
  | .byte c => return c.toNat
  | _ => throw .badClassMember

def member (f : Flags) : Piece → Reader CharClass
  | .char c => if f.plain && 128 ≤ c.toNat then throw .notText else return .single c
  | .byte c => return .single c
  | .set c => return c
  | _ => throw .badClassMember

def classItem : Reader Piece := do
  match ← need .unclosedClass with
  | '\\' => escape
  | c => bump; return .char c

/-- One character, escape or range. A hyphen before a bracket or another hyphen is no range. -/
def classRange : Reader CharClass := do
  let f ← flags
  let first ← classItem
  skipSpace
  let c ← need .unclosedClass
  let s ← get
  let following := (afterSpace { s with rest := s.rest.tail }).head?
  if c != '-' || following == some ']' || following == some '-' then member f first
  else
    bumpSpace
    let _ ← need .unclosedClass
    let last ← classItem
    let a ← rangeEnd f first
    let b ← rangeEnd f last
    if b < a then throw .badRange
    return .range a b

/-- A named class `[:name:]`, if there is one here. -/
def posixClass : Reader (Option CharClass) := do
  let s ← get
  match s.rest with
  | '[' :: ':' :: rest =>
    let (negated, rest) := match rest with
      | '^' :: tail => (true, tail)
      | _ => (false, rest)
    let name := rest.takeWhile (· != ':')
    match rest.dropWhile (· != ':') with
    | ':' :: ']' :: tail =>
      match CharClass.posix? (.ofList name) with
      | some c =>
        setRest tail
        return some (negateIf negated (foldCase s.flags c))
      | none => return none
    | _ => return none
  | _ => return none

/-- Hyphens at the start of a class stand for themselves. -/
def leadingHyphens : Nat → CharClass → Reader CharClass
  | 0, c => return c
  | fuel + 1, c => do
    match ← need .unclosedClass with
    | '-' => bumpSpace; leadingHyphens fuel (.or c (.single '-'))
    | _ => return c

/-- Opens a class: whether it is negated, and the members that only stand at its start. -/
def classOpen : Reader (Bool × CharClass) := do
  bumpSpace
  let negated ← match ← need .unclosedClass with
    | '^' => do bumpSpace; pure true
    | _ => pure false
  let start ← leadingHyphens (← get).rest.length.succ .none
  let atStart := match start with
    | .none => true
    | _ => false
  match ← need .unclosedClass with
  | ']' =>
    if atStart then
      bumpSpace
      let _ ← need .unclosedClass
      return (negated, .or start (.single ']'))
    else return (negated, start)
  | _ => return (negated, start)

/-- The rest of a class after its opening, through the closing bracket. -/
def classBody : Nat → Bool → Pending → CharClass → Reader CharClass
  | 0, _, _, _ => throw .tooDeep
  | fuel + 1, negated, pending, sofar => do
    skipSpace
    let c ← need .unclosedClass
    let second ← peekSecond
    let operator (op : ClassOp) : Reader CharClass := do
      bump
      bump
      let f ← flags
      classBody fuel negated (some (combine f pending sofar, op)) .none
    match c with
    | '[' =>
      match ← posixClass with
      | some named => classBody fuel negated pending (.or sofar named)
      | none =>
        let (inner, start) ← classOpen
        let nested ← classBody fuel inner none start
        classBody fuel negated pending (.or sofar nested)
    | ']' =>
      bump
      let f ← flags
      return negateIf negated (foldCase f (combine f pending sofar))
    | _ =>
      if c == '&' && second == some '&' then operator .both
      else if c == '-' && second == some '-' then operator .minus
      else if c == '~' && second == some '~' then operator .oneOnly
      else
        let next ← classRange
        classBody fuel negated pending (.or sofar next)

def bracket : Reader Expr := do
  let (negated, start) ← classOpen
  let c ← classBody (← get).rest.length.succ negated none start
  return .one (← plainChecked (← flags) c)

/-- A count: digits, with blanks around them. -/
def count : Reader (Option Nat) := do
  modify fun s => { s with rest := s.rest.dropWhile Text.isBlankChar }
  let rec digits : Nat → List Char → Reader (List Char)
    | 0, acc => return acc.reverse
    | fuel + 1, acc => do
      match ← peek with
      | some c => if c.isDigit then bumpSpace; digits fuel (c :: acc) else return acc.reverse
      | none => return acc.reverse
  let ds ← digits (← get).rest.length []
  modify fun s => { s with rest := s.rest.dropWhile Text.isBlankChar }
  skipSpace
  if ds.isEmpty then return none
  let n := ds.foldl (fun n c => 10 * n + hexValue c) 0
  if 0x100000000 ≤ n then throw .badCount
  return some n

def needCount (n : Option Nat) : Reader Nat :=
  match n with
  | some n => return n
  | none => throw .badCount

/-- The bounds between braces. -/
def bounds : Reader (Nat × Option Nat) := do
  bumpSpace
  let _ ← need .unclosedCount
  let least ← count
  let range ← match ← need .unclosedCount with
    | ',' => do
      bumpSpace
      match ← need .unclosedCount with
      | '\x7d' => do pure (← needCount least, none)
      | _ => do
        let n ← needCount least
        pure (n, some (← needCount (← count)))
    | _ => do
      let n ← needCount least
      pure (n, some n)
  match ← need .unclosedCount with
  | '\x7d' => bumpSpace
  | _ => throw .unclosedCount
  return range

/-- A question mark behind a repetition prefers short matches, and changes none. -/
def lazyMark : Reader Unit := do
  match ← peek with
  | some '?' => bump
  | _ => pure ()

/-- A flag letter sets, or clears, one flag. -/
def Flags.setFlag (f : Flags) (on : Bool) : Char → Option Flags
  | 'i' => some { f with ignoreCase := on }
  | 'm' => some { f with multiLine := on }
  | 's' => some { f with dotAll := on }
  | 'R' => some { f with carriageReturns := on }
  | 'u' => some { f with plain := !on }
  | 'x' => some { f with spaced := on }
  | 'U' => some f
  | _ => none

/-- Flag letters up to a colon or a closing parenthesis, which is left to read. -/
def flagList : Nat → List Char → Bool → Flags → Reader (Flags × Bool)
  | 0, _, _, _ => throw .unknownFlag
  | fuel + 1, seen, dangling, f => do
    let c ← need .unknownFlag
    if c == ':' || c == ')' then
      if dangling then throw .danglingNegation
      return (f, seen.isEmpty)
    if seen.contains c then throw .repeatedFlag
    bump
    if c == '-' then flagList fuel (c :: seen) true f
    else
      match f.setFlag (!seen.contains '-') c with
      | some f => flagList fuel (c :: seen) false f
      | none => throw .unknownFlag

def isNameChar (first : Bool) (c : Char) : Bool :=
  c == '_' || Text.isAlphabetic c ||
    (!first && (Text.isNumeric c || c == '.' || c == '[' || c == ']'))

def groupName : Reader Unit := do
  let s ← get
  let name := s.rest.takeWhile (· != '>')
  match name with
  | [] => throw .badGroupName
  | c :: cs =>
    if !isNameChar true c || !cs.all (isNameChar false) then throw .badGroupName
  if name.length = s.rest.length then throw .badGroupName
  let name := String.ofList name
  if s.names.contains name then throw .repeatedGroupName
  set { s with rest := (s.rest.dropWhile (· != '>')).tail, names := name :: s.names }

/-- Opens a group. The answer is `none` for a group of flags alone, which are in force from here
on, and otherwise the flags to restore at the end of the group. -/
def groupOpen : Reader (Option Flags) := do
  bumpSpace
  let s ← get
  match s.rest with
  | '?' :: '=' :: _ | '?' :: '!' :: _ | '?' :: '<' :: '=' :: _ | '?' :: '<' :: '!' :: _ =>
    throw .lookAround
  | '?' :: 'P' :: '<' :: rest | '?' :: '<' :: rest =>
    setRest rest
    groupName
    return some s.flags
  | '?' :: rest =>
    setRest rest
    let _ ← need .unclosedGroup
    let (f, noFlags) ← flagList rest.length.succ [] false s.flags
    let c ← need .unknownFlag
    bump
    modify fun t => { t with flags := f }
    if c == ')' then
      if noFlags then throw .nothingToRepeat
      return none
    return some s.flags
  | _ => return some s.flags

/-- The pieces of a sequence, last first; a group of flags alone is a piece without meaning. -/
abbrev Pieces := List (Option Node)

def maxDepth (ns : List Node) : Nat := ns.foldl (fun d n => max d n.depth) 0

def sequenceNode (pieces : Pieces) : Node :=
  let nodes := pieces.reverse.filterMap id
  ⟨.seqAll (nodes.map Node.expr), maxDepth nodes + (if pieces.length < 2 then 0 else 1)⟩

def alternativesNode (done : List Node) (pieces : Pieces) : Node :=
  match done with
  | [] => sequenceNode pieces
  | _ =>
    let nodes := done ++ [sequenceNode pieces]
    ⟨.altAll (nodes.map Node.expr), maxDepth nodes + 1⟩

/-- Repeats the last piece. -/
def repeatLast (least : Nat) (most : Option Nat) : Pieces → Reader Pieces
  | some n :: pieces => return some ⟨.many n.expr least most, n.depth + 1⟩ :: pieces
  | _ => throw .nothingToRepeat

/-- Alternatives up to the end of the group or of the pattern, which is left to read. -/
def alternatives : Nat → List Node → Pieces → Reader Node
  | 0, _, _ => throw .tooDeep
  | fuel + 1, done, pieces => do
    skipSpace
    let simple (least : Nat) (most : Option Nat) : Reader Node := do
      let pieces ← repeatLast least most pieces
      bump
      lazyMark
      alternatives fuel done pieces
    match ← peek with
    | none | some ')' => return alternativesNode done pieces
    | some '|' =>
      bump
      alternatives fuel (done ++ [sequenceNode pieces]) []
    | some '(' =>
      match ← groupOpen with
      | none => alternatives fuel done (none :: pieces)
      | some outer =>
        let inner ← alternatives fuel [] []
        match ← peek with
        | some ')' =>
          bump
          modify fun s => { s with flags := outer }
          alternatives fuel done (some ⟨inner.expr, inner.depth + 1⟩ :: pieces)
        | _ => throw .unclosedGroup
    | some '[' =>
      let e ← bracket
      alternatives fuel done (some ⟨e, 1⟩ :: pieces)
    | some '?' => simple 0 (some 1)
    | some '*' => simple 0 none
    | some '+' => simple 1 none
    | some '\x7b' =>
      let _ ← repeatLast 0 none pieces
      let (least, most) ← bounds
      lazyMark
      if most.any (· < least) then throw .badCount
      let pieces ← repeatLast least most pieces
      alternatives fuel done pieces
    | some _ =>
      let f ← flags
      let e ← (← primitive).expr f
      alternatives fuel done (some ⟨e, 0⟩ :: pieces)

/-- How deep groups, repetitions, classes, sequences and alternatives may nest. -/
def depthLimit : Nat := 250

def weightLimit : Nat := 10 <<< 20

def wholePattern : Reader Expr := do
  let node ← alternatives (← get).rest.length.succ [] []
  match ← peek with
  | some _ => throw .unopenedGroup
  | none =>
    if depthLimit < node.depth then throw .tooDeep
    if weightLimit < node.expr.weight then throw .tooLarge
    return node.expr

/-- Reads a pattern. -/
def readExpr (s : String) : Except Problem Expr :=
  (wholePattern.run ⟨s.toList, .initial, []⟩).map Prod.fst

end RecordSearch.Pattern

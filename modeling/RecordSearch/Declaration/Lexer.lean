import RecordSearch.Declaration.Literal
import RecordSearch.Text.Blank

/-! Cutting the text of a declaration into tokens. Comments mean nothing, but for those that
document: they are attributes. -/
namespace RecordSearch.Lexer

open Literal (plainWord?)

def startsWith (start : String) (cs : List Char) : Bool := start.toList.isPrefixOf cs

/-- The rest of a line, and the line end with what follows it. -/
def line : List Char → List Char × List Char
  | [] => ([], [])
  | '\n' :: cs => ([], '\n' :: cs)
  | '\r' :: '\n' :: cs => ([], '\n' :: cs)
  | c :: cs => let (content, rest) := line cs; (c :: content, rest)

/-- A comment that may hold comments, up to its end, and what follows. -/
def comment? (depth : Nat) : List Char → Option (List Char × List Char)
  | [] => none
  | '/' :: '*' :: cs =>
    (comment? (depth + 1) cs).map fun (content, rest) => ('/' :: '*' :: content, rest)
  | '*' :: '/' :: cs =>
    match depth with
    | 0 => some ([], cs)
    | depth + 1 => (comment? depth cs).map fun (content, rest) => ('*' :: '/' :: content, rest)
  | c :: cs => (comment? depth cs).map fun (content, rest) => (c :: content, rest)

/-- Blanks, and the marks that turn the direction of writing. -/
def isSpace (c : Char) : Bool := Text.isBlankChar c || c == '\u200e' || c == '\u200f'

def isLineComment (cs : List Char) : Bool :=
  startsWith "//" cs && !startsWith "//!" cs && (!startsWith "///" cs || startsWith "////" cs)

def isBlockComment (cs : List Char) : Bool :=
  startsWith "/**/" cs ||
    startsWith "/*" cs && !startsWith "/*!" cs && (!startsWith "/**" cs || startsWith "/***" cs)

/-- Drops blanks and comments. -/
def skipSpace : Nat → List Char → List Char
  | 0, cs => cs
  | fuel + 1, cs =>
    if isLineComment cs then skipSpace fuel (line cs).2
    else if isBlockComment cs then
      match comment? 0 (cs.drop 2) with
      | some (_, rest) => skipSpace fuel rest
      | none => cs
    else
      match cs with
      | c :: rest => if isSpace c then skipSpace fuel rest else cs
      | [] => []

/-- Whether every carriage return is part of a line end. -/
def wholeLineEnds : List Char → Bool
  | [] => true
  | '\r' :: '\n' :: cs => wholeLineEnds cs
  | c :: cs => c != '\r' && wholeLineEnds cs

/-- A documenting comment: whether it documents what it stands in, its content, and the rest. -/
def documentation? (cs : List Char) : Option (Bool × List Char × List Char) :=
  let block := fun inside =>
    (comment? 0 (cs.drop 3)).map fun (content, rest) => (inside, content, rest)
  let found :=
    if startsWith "//!" cs then some (true, line (cs.drop 3))
    else if startsWith "/*!" cs then block true
    else if startsWith "///" cs ∧ !startsWith "////" cs then some (false, line (cs.drop 3))
    else if startsWith "/**" cs ∧ !startsWith "/***" cs then block false
    else none
  found.filter fun (_, content, _) => wholeLineEnds content

/-- The attribute that a documenting comment stands for. -/
def documentationLexemes (inside : Bool) (content : List Char) : List Lexeme :=
  let value := String.ofList content
  [.leaf (.mark '#' false)] ++ (if inside then [.leaf (.mark '!' false)] else []) ++
    [.opening .bracket, .leaf (.word "doc"), .leaf (.mark '=' false),
      .leaf (.literal (.text value) value), .closing .bracket]

/-- Names that cannot be written as raw words. -/
def neverRaw : List (List Char) := ["_", "super", "self", "Self", "crate"].map String.toList

/-- A word, plain or raw, and what follows it. -/
def anyWord? (cs : List Char) : Option (List Char × List Char) :=
  if startsWith "r#" cs then
    (plainWord? (cs.drop 2)).bind fun (name, rest) =>
      if neverRaw.contains name then none else some ('r' :: '#' :: name, rest)
  else plainWord? cs

/-- What looks like a word but starts a literal. -/
def literalStarts : List String :=
  ["r\"", "r#\"", "r##", "b\"", "b'", "br\"", "br#", "c\"", "cr\"", "cr#"]

def word? (cs : List Char) : Option (List Char × List Char) :=
  if literalStarts.any (startsWith · cs) then none else anyWord? cs

def marks : List Char := "~!@#$%^&*-=+|;:,<.>/?'".toList

/-- A punctuation mark, unless it starts a comment. -/
def mark? : List Char → Option (Char × List Char)
  | [] => none
  | c :: cs =>
    if startsWith "//" (c :: cs) || startsWith "/*" (c :: cs) then none
    else if marks.contains c then some (c, cs)
    else none

/-- A mark as a token; an apostrophe must stand before a word that no apostrophe follows. -/
def markToken? (cs : List Char) : Option (Token × List Char) :=
  (mark? cs).bind fun (c, rest) =>
    if c = '\'' then
      (anyWord? rest).bind fun (_, behind) =>
        if startsWith "'" behind || startsWith "#" behind && !startsWith "r#" rest then none
        else some (.mark c true, rest)
    else some (.mark c (mark? rest).isSome, rest)

/-- A token other than a bracket, and what follows it. -/
def leaf? (cs : List Char) : Option (Token × List Char) :=
  match Literal.read? cs with
  | some (kind, rest) =>
    some (.literal kind (String.ofList (cs.take (cs.length - rest.length))), rest)
  | none =>
    (markToken? cs).or ((word? cs).map fun (name, rest) => (.word (String.ofList name), rest))

/-- The lexemes of a text; each uses up at least one character. -/
def lexemes? : Nat → List Char → Option (List Lexeme)
  | 0, _ => none
  | fuel + 1, cs =>
    let cs := skipSpace cs.length cs
    match documentation? cs with
    | some (inside, content, rest) =>
      (lexemes? fuel rest).map (documentationLexemes inside content ++ ·)
    | none =>
      match cs with
      | [] => some []
      | c :: rest =>
        match Delimiter.opened? c, Delimiter.closed? c with
        | some d, _ => (lexemes? fuel rest).map (.opening d :: ·)
        | none, some d => (lexemes? fuel rest).map (.closing d :: ·)
        | none, none =>
          (leaf? cs).bind fun (t, rest) => (lexemes? fuel rest).map (.leaf t :: ·)

def withoutByteOrderMark : List Char → List Char
  | '\ufeff' :: cs => cs
  | cs => cs

/-- The tokens of a text whose brackets match. -/
def tokens? (s : String) : Option (List Token) :=
  let cs := withoutByteOrderMark s.toList
  (lexemes? (cs.length + 1) cs).bind (Lexeme.nest [] [])

end RecordSearch.Lexer

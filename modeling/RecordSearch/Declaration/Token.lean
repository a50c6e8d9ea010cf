/-! Tokens of declarations. Brackets come in pairs, so a token may be a group of tokens. -/
namespace RecordSearch

inductive Delimiter
  | paren | bracket | brace
  deriving DecidableEq, Repr

namespace Delimiter

def opening : Delimiter → Char
  | paren => '('
  | bracket => '['
  | brace => '\x7b'

def closing : Delimiter → Char
  | paren => ')'
  | bracket => ']'
  | brace => '\x7d'

def all : List Delimiter := [paren, bracket, brace]

def opened? (c : Char) : Option Delimiter := all.find? fun d => d.opening == c
def closed? (c : Char) : Option Delimiter := all.find? fun d => d.closing == c

end Delimiter

inductive LiteralKind
  /-- A string, with what it stands for. -/
  | text (value : String)
  | number
  /-- A character, a byte, or a string of bytes. -/
  | other
  deriving DecidableEq, Repr

inductive Token
  | word (name : String)
  /-- A punctuation mark, and whether another one follows at once. -/
  | mark (c : Char) (joint : Bool)
  | literal (kind : LiteralKind) (written : String)
  | group (d : Delimiter) (tokens : List Token)

namespace Token

mutual

def chars : Token → List Char
  | word name => name.toList
  | mark c _ => [c]
  | literal _ written => written.toList
  | group d tokens => d.opening :: charsAll tokens ++ [d.closing]

def charsAll : List Token → List Char
  | [] => []
  | t :: ts => chars t ++ charsAll ts

end

/-- The text of some tokens without any blanks. -/
def text (tokens : List Token) : String :=
  String.ofList ((charsAll tokens).filter fun c => c != ' ')

end Token

/-- A token of its own, or one end of a group. -/
inductive Lexeme
  | leaf (t : Token)
  | opening (d : Delimiter)
  | closing (d : Delimiter)

namespace Lexeme

/-- Pairs the brackets. Groups that are still open wait with what came before them. -/
def nest (waiting : List (Delimiter × List Token)) (current : List Token) :
    List Lexeme → Option (List Token)
  | [] => if waiting.isEmpty then some current.reverse else none
  | leaf t :: rest => nest waiting (t :: current) rest
  | opening d :: rest => nest ((d, current) :: waiting) [] rest
  | closing d :: rest =>
    match waiting with
    | [] => none
    | (e, outer) :: waiting =>
      if d = e then nest waiting (.group d current.reverse :: outer) rest else none

end Lexeme
end RecordSearch

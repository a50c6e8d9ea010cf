import RecordSearch.Declaration.Token
import RecordSearch.Text.Letter

/-! Literals at the front of a text: what they stand for, and what follows them. -/
namespace RecordSearch.Literal

def startsWord (c : Char) : Bool := c == '_' || Text.isIdentifierStart c

/-- A word and what follows it. -/
def plainWord? : List Char → Option (List Char × List Char)
  | [] => none
  | c :: cs =>
    if startsWord c then
      some (c :: cs.takeWhile Text.isIdentifierContinue, cs.dropWhile Text.isIdentifierContinue)
    else none

/-- What follows a suffix, if there is one. -/
def afterSuffix (cs : List Char) : List Char :=
  match plainWord? cs with
  | some (_, rest) => rest
  | none => cs

/-- What the characters of a string may be. -/
inductive Alphabet
  | any
  /-- Bytes, written in the plain alphabet. -/
  | bytes
  /-- Everything but the character zero. -/
  | nonzero
  deriving DecidableEq

def Alphabet.has : Alphabet → Char → Bool
  | any, _ => true
  | bytes, c => decide (c.toNat < 128)
  | nonzero, c => c != '\x00'

def hexDigit? (c : Char) : Option Nat :=
  if c.isDigit then some (c.toNat - '0'.toNat)
  else if 'a' ≤ c ∧ c ≤ 'f' then some (c.toNat - 'a'.toNat + 10)
  else if 'A' ≤ c ∧ c ≤ 'F' then some (c.toNat - 'A'.toNat + 10)
  else none

/-- An escape of two hexadecimal digits; in plain text it stays below 128. -/
def byteEscape? (a : Alphabet) (high low : Char) : Option Char := do
  let n := 16 * (← hexDigit? high) + (← hexDigit? low)
  match a with
  | .any => if n < 128 then some (Char.ofNat n) else none
  | .bytes => some (Char.ofNat n)
  | .nonzero => if n = 0 then none else some (Char.ofNat n)

/-- One to six hexadecimal digits and a closing brace; underscores part the digits. -/
def bracedEscape? (digits value : Nat) : List Char → Option (Char × List Char)
  | [] => none
  | c :: cs =>
    if c = '\x7d' then
      if digits ≠ 0 ∧ value.isValidChar then some (Char.ofNat value, cs) else none
    else if c = '_' then if digits = 0 then none else bracedEscape? digits value cs
    else
      match hexDigit? c with
      | some d => if digits = 6 then none else bracedEscape? (digits + 1) (16 * value + d) cs
      | none => none

/-- What follows the blanks that start a line; the text must go on. -/
def afterBlanks? : List Char → Option (List Char)
  | [] => none
  | ' ' :: cs => afterBlanks? cs
  | '\t' :: cs => afterBlanks? cs
  | '\n' :: cs => afterBlanks? cs
  | '\r' :: '\n' :: cs => afterBlanks? cs
  | '\r' :: _ => none
  | cs => some cs

def plainEscapes : List (Char × Char) :=
  [('n', '\n'), ('r', '\r'), ('t', '\t'), ('\\', '\\'), ('0', '\x00'), ('\'', '\''), ('"', '"')]

/-- What an escape stands for, and what follows it; an escaped line end stands for nothing. -/
def escape? (a : Alphabet) : List Char → Option (List Char × List Char)
  | 'x' :: high :: low :: cs => (byteEscape? a high low).map fun c => ([c], cs)
  | 'u' :: '\x7b' :: cs =>
    if a = .bytes then none
    else (bracedEscape? 0 0 cs).bind fun (c, rest) => if a.has c then some ([c], rest) else none
  | '\n' :: cs => (afterBlanks? cs).map ([], ·)
  | '\r' :: '\n' :: cs => (afterBlanks? cs).map ([], ·)
  | c :: cs => (plainEscapes.lookup c).bind fun v => if a.has v then some ([v], cs) else none
  | [] => none

/-- The inside of a quoted string, and what follows its closing quote. -/
def quoted? (a : Alphabet) : Nat → List Char → Option (List Char × List Char)
  | 0, _ => none
  | fuel + 1, cs =>
    match cs with
    | [] => none
    | '"' :: rest => some ([], rest)
    | '\\' :: rest => do
      let (value, rest) ← escape? a rest
      let (values, rest) ← quoted? a fuel rest
      return (value ++ values, rest)
    | '\r' :: '\n' :: rest => (quoted? a fuel rest).map fun (values, rest) => ('\n' :: values, rest)
    | c :: rest =>
      if c = '\r' ∨ !a.has c then none
      else (quoted? a fuel rest).map fun (values, rest) => (c :: values, rest)

/-- The inside of a string without escapes that ends in a quote and as many hashes as given. -/
def unescaped? (a : Alphabet) (hashes : Nat) : List Char → Option (List Char × List Char)
  | [] => none
  | '\r' :: '\n' :: rest =>
    (unescaped? a hashes rest).map fun (values, rest) => ('\r' :: '\n' :: values, rest)
  | c :: rest =>
    if c = '"' ∧ (List.replicate hashes '#').isPrefixOf rest then some ([], rest.drop hashes)
    else if c = '\r' ∨ !a.has c then none
    else (unescaped? a hashes rest).map fun (values, rest) => (c :: values, rest)

/-- Such a string from its opening hashes on. -/
def hashed? (a : Alphabet) (cs : List Char) : Option (List Char × List Char) :=
  let hashes := (cs.takeWhile (· == '#')).length
  match cs.drop hashes with
  | '"' :: rest => if hashes ≤ 255 then unescaped? a hashes rest else none
  | _ => none

/-- A single character between apostrophes, from behind the first. -/
def single? (a : Alphabet) : List Char → Option (List Char)
  | '\\' :: '\n' :: _ => none
  | '\\' :: '\r' :: _ => none
  | '\\' :: cs => (escape? a cs).bind fun (_, rest) => close? rest
  | c :: cs => if a.has c then close? cs else none
  | [] => none
where
  close? : List Char → Option (List Char)
    | '\'' :: rest => some rest
    | _ => none

/-- The digits and the point of a number with a fraction or an exponent: whether there is a point,
whether there is an exponent, and what follows. -/
def mantissa? (point : Bool) : List Char → Option (Bool × Bool × List Char)
  | [] => some (point, false, [])
  | c :: cs =>
    if c.isDigit || c == '_' then mantissa? point cs
    else if c = '.' ∧ point = false then
      if cs.head?.any fun next => next == '.' || startsWord next then none else mantissa? true cs
    else some (point, c == 'e' || c == 'E', c :: cs)

/-- What follows an exponent, which has a digit and at most one sign before its digits. -/
def afterExponent? (sign digit : Bool) : List Char → Option (List Char)
  | [] => if digit then some [] else none
  | c :: cs =>
    if (c = '+' ∨ c = '-') ∧ digit = false then
      if sign then none else afterExponent? true digit cs
    else if c.isDigit then afterExponent? sign true cs
    else if c = '_' then afterExponent? sign digit cs
    else if digit then some (c :: cs)
    else none

/-- What follows a number with a fraction or an exponent. Without a point, what looks like an
exponent but is none makes it no such number. -/
def afterReal? (cs : List Char) : Option (List Char) := do
  if !cs.head?.any Char.isDigit then none
  let (point, exponent, rest) ← mantissa? false cs
  if exponent then
    match afterExponent? false false rest.tail with
    | some rest => some rest
    | none => if point then some rest else none
  else if point then some rest
  else none

/-- What follows the digits of a base, at least one of them. -/
def afterDigits? (base : Nat) (digit : Bool) : List Char → Option (List Char)
  | [] => if digit then some [] else none
  | c :: cs =>
    if c.isDigit then if c.toNat - '0'.toNat < base then afterDigits? base true cs else none
    else if c = '_' then if digit ∨ base ≠ 10 then afterDigits? base digit cs else none
    else if base = 16 ∧ (hexDigit? c).isSome then afterDigits? base true cs
    else if digit then some (c :: cs)
    else none

def afterInteger? : List Char → Option (List Char)
  | '0' :: 'x' :: cs => afterDigits? 16 false cs
  | '0' :: 'o' :: cs => afterDigits? 8 false cs
  | '0' :: 'b' :: cs => afterDigits? 2 false cs
  | cs => afterDigits? 10 false cs

/-- A number ends where a word could not go on. -/
def endsNumber? (cs : List Char) : Option (List Char) :=
  let rest := afterSuffix cs
  if rest.head?.any Text.isIdentifierContinue then none else some rest

def afterNumber? (cs : List Char) : Option (List Char) :=
  ((afterReal? cs).bind endsNumber?).or ((afterInteger? cs).bind endsNumber?)

/-- A string of one of six forms: its value, if it is text, and what follows. -/
def string? (cs : List Char) : Option (LiteralKind × List Char) :=
  let text := fun (value, rest) => (LiteralKind.text (String.ofList value), afterSuffix rest)
  let other := fun (r : List Char × List Char) => (LiteralKind.other, afterSuffix r.2)
  match cs with
  | '"' :: rest => (quoted? .any (rest.length + 1) rest).map text
  | 'r' :: rest => (hashed? .any rest).map text
  | 'b' :: '"' :: rest => (quoted? .bytes (rest.length + 1) rest).map other
  | 'b' :: 'r' :: rest => (hashed? .bytes rest).map other
  | 'c' :: '"' :: rest => (quoted? .nonzero (rest.length + 1) rest).map other
  | 'c' :: 'r' :: rest => (hashed? .nonzero rest).map other
  | _ => none

/-- A character or a byte. -/
def character? (cs : List Char) : Option (LiteralKind × List Char) :=
  let other := fun rest => (LiteralKind.other, afterSuffix rest)
  match cs with
  | '\'' :: rest => (single? .any rest).map other
  | 'b' :: '\'' :: rest => (single? .bytes rest).map other
  | _ => none

def read? (cs : List Char) : Option (LiteralKind × List Char) :=
  ((string? cs).or (character? cs)).or ((afterNumber? cs).map (.number, ·))

end RecordSearch.Literal

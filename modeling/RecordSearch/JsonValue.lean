/-! JSON documents. A string is kept as it is written between its quotes, and what it stands for is
read when it is asked for; so a string that nobody asks for may hold half of a surrogate pair. -/
namespace RecordSearch

inductive JsonValue
  | null
  | bool (b : Bool)
  | number
  | string (written : List Char)
  | list (items : List JsonValue)
  | object (members : List (List Char × JsonValue))

namespace JsonValue

def isBlank (c : Char) : Bool := c == ' ' || c == '\n' || c == '\r' || c == '\t'

def skipBlank (cs : List Char) : List Char := cs.dropWhile isBlank

/-- What follows a word. -/
def afterWord? (word cs : List Char) : Option (List Char) :=
  if word.isPrefixOf cs then some (cs.drop word.length) else none

def hexDigit? (c : Char) : Option Nat :=
  if c.isDigit then some (c.toNat - '0'.toNat)
  else if 'a' ≤ c ∧ c ≤ 'f' then some (c.toNat - 'a'.toNat + 10)
  else if 'A' ≤ c ∧ c ≤ 'F' then some (c.toNat - 'A'.toNat + 10)
  else none

def hexUnit? (a b c d : Char) : Option Nat := do
  return (((← hexDigit? a) * 16 + (← hexDigit? b)) * 16 + (← hexDigit? c)) * 16 + (← hexDigit? d)

/-- The character that a one-letter escape stands for. -/
def escape? (c : Char) : Option Char :=
  [('"', '"'), ('\\', '\\'), ('/', '/'), ('b', '\x08'), ('f', '\x0c'), ('n', '\n'), ('r', '\r'),
    ('t', '\t')].lookup c

/-- A string up to its closing quote, and what follows. -/
def stringBody? : List Char → Option (List Char × List Char)
  | [] => none
  | '"' :: rest => some ([], rest)
  | '\\' :: 'u' :: a :: b :: c :: d :: rest => do
    let _ ← hexUnit? a b c d
    let (body, rest) ← stringBody? rest
    return ('\\' :: 'u' :: a :: b :: c :: d :: body, rest)
  | '\\' :: c :: rest => do
    let _ ← escape? c
    let (body, rest) ← stringBody? rest
    return ('\\' :: c :: body, rest)
  | c :: rest =>
    if c = '\\' ∨ c.toNat < 32 then none
    else (stringBody? rest).map fun (body, rest) => (c :: body, rest)

/-- The character of a pair of surrogates. -/
def joinUnits? (high low : Nat) : Option Char :=
  if 0xDC00 ≤ low ∧ low < 0xE000 then
    some (Char.ofNat (0x10000 + (high - 0xD800) * 0x400 + (low - 0xDC00)))
  else none

/-- What a written string stands for, unless it holds half of a surrogate pair. -/
def unescape? : List Char → Option (List Char)
  | [] => some []
  | '\\' :: 'u' :: a :: b :: c :: d :: rest => do
    let n ← hexUnit? a b c d
    if 0xD800 ≤ n ∧ n < 0xDC00 then
      match rest with
      | '\\' :: 'u' :: a :: b :: c :: d :: rest => do
        let joined ← joinUnits? n (← hexUnit? a b c d)
        return joined :: (← unescape? rest)
      | _ => none
    else if 0xDC00 ≤ n ∧ n < 0xE000 then none
    else return Char.ofNat n :: (← unescape? rest)
  | '\\' :: c :: rest => do return (← escape? c) :: (← unescape? rest)
  | c :: rest => (unescape? rest).map (c :: ·)

def text? (written : List Char) : Option String := (unescape? written).map String.ofList

/-- What follows a run of at least one digit. -/
def digits? (cs : List Char) : Option (List Char) :=
  if (cs.takeWhile Char.isDigit).isEmpty then none else some (cs.dropWhile Char.isDigit)

def exponent? : List Char → Option (List Char)
  | '+' :: rest => digits? rest
  | '-' :: rest => digits? rest
  | rest => digits? rest

/-- What follows an exponent, if there is one. -/
def afterExponent? : List Char → Option (List Char)
  | 'e' :: rest => exponent? rest
  | 'E' :: rest => exponent? rest
  | rest => some rest

/-- What follows a fraction and an exponent, if they are there. -/
def afterFraction? : List Char → Option (List Char)
  | '.' :: rest => (digits? rest).bind afterExponent?
  | rest => afterExponent? rest

/-- What follows a number that is not negative; only zero starts with a zero. -/
def afterNatural? : List Char → Option (List Char)
  | '0' :: rest => if rest.head?.any Char.isDigit then none else afterFraction? rest
  | rest => (digits? rest).bind afterFraction?

mutual

/-- A value and what follows it; every step uses up some fuel. -/
def value? : Nat → List Char → Option (JsonValue × List Char)
  | 0, _ => none
  | fuel + 1, cs =>
    match skipBlank cs with
    | 'n' :: rest => (afterWord? ['u', 'l', 'l'] rest).map (null, ·)
    | 't' :: rest => (afterWord? ['r', 'u', 'e'] rest).map (bool true, ·)
    | 'f' :: rest => (afterWord? ['a', 'l', 's', 'e'] rest).map (bool false, ·)
    | '-' :: rest => (afterNatural? rest).map (number, ·)
    | '"' :: rest => (stringBody? rest).map fun (body, rest) => (string body, rest)
    | '[' :: rest =>
      match skipBlank rest with
      | ']' :: rest => some (list [], rest)
      | rest => (items? fuel rest).map fun (items, rest) => (list items, rest)
    | '\x7b' :: rest =>
      match skipBlank rest with
      | '\x7d' :: rest => some (object [], rest)
      | rest => (members? fuel rest).map fun (members, rest) => (object members, rest)
    | rest => (afterNatural? rest).map (number, ·)

/-- The items of a list, at least one, and its end. -/
def items? : Nat → List Char → Option (List JsonValue × List Char)
  | 0, _ => none
  | fuel + 1, cs => do
    let (item, rest) ← value? fuel cs
    match skipBlank rest with
    | ',' :: rest =>
      let (items, rest) ← items? fuel rest
      return (item :: items, rest)
    | ']' :: rest => return ([item], rest)
    | _ => none

/-- The members of an object, at least one, and its end. -/
def members? : Nat → List Char → Option (List (List Char × JsonValue) × List Char)
  | 0, _ => none
  | fuel + 1, cs =>
    match skipBlank cs with
    | '"' :: rest => do
      let (key, rest) ← stringBody? rest
      match skipBlank rest with
      | ':' :: rest =>
        let (value, rest) ← value? fuel rest
        match skipBlank rest with
        | ',' :: rest =>
          let (members, rest) ← members? fuel rest
          return ((key, value) :: members, rest)
        | '\x7d' :: rest => return ([(key, value)], rest)
        | _ => none
      | _ => none
    | _ => none

end

/-- Reads a document; nothing but blanks may follow it. -/
def read? (s : String) : Option JsonValue := do
  let cs := s.toList
  let (value, rest) ← value? (2 * cs.length + 1) cs
  if (skipBlank rest).isEmpty then some value else none

end JsonValue
end RecordSearch

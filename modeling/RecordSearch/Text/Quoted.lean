import RecordSearch.Text.Category

/-! Characters that stand for themselves in quoted text, and those that do not: marks that join
the character before them, and characters without a glyph. -/
namespace RecordSearch.Text

/-- Marks that extend the character they follow. -/
def Property.extending : Property where
  categories := [.nonspacingMark, .enclosingMark]
  also := .ofRows
    ["9BE 9D7 B3E B57 BBE BD7 CC0 CC2 CC7-CC8 CCA-CCB CD5-CD6 D3E D57 DCF DDF 1715 1734 1B35 1B3B",
     "1B3D 1B43-1B44 1BAA 1BF2-1BF3 200C 302E-302F A953 A9C0 FF9E-FF9F 111C0 11235 1133E 1134D",
     "11357 113B8 113C2 113C5 113C7-113C9 113CF 114B0 114BD 115AF 116B6 11930 1193D 11F41",
     "16FF0-16FF1 1D165-1D166 1D16D-1D172 E0020-E007F"]
  except := .empty

/-- The categories without a glyph; the plain space has one. -/
def invisible : List Category :=
  [.control, .format, .surrogate, .privateUse, .unassigned, .spaceSeparator, .lineSeparator,
    .paragraphSeparator]

def isInvisible (c : Char) : Bool := c != ' ' && invisible.any (·.has c.toNat)

/-- Characters that quoted text writes as their number. -/
def needsNumber (c : Char) : Bool :=
  if c.toNat < 128 then c.toNat < 32 || c.toNat == 127
  else Property.extending.contains c || isInvisible c

def hex (n : Nat) : List Char := Nat.toDigits 16 n

/-- One character as it stands between double quotes. -/
def quoteChar (c : Char) : List Char :=
  if c = '"' then ['\\', '"']
  else if c = '\\' then ['\\', '\\']
  else if c = '\n' then ['\\', 'n']
  else if c = '\r' then ['\\', 'r']
  else if c = '\t' then ['\\', 't']
  else if c = '\x00' then ['\\', '0']
  else if needsNumber c then '\\' :: 'u' :: '\x7b' :: hex c.toNat ++ ['\x7d']
  else [c]

/-- Text between double quotes, with everything that is not plainly visible escaped. -/
def quote (s : String) : String :=
  String.ofList ('"' :: s.toList.flatMap quoteChar ++ ['"'])

end RecordSearch.Text

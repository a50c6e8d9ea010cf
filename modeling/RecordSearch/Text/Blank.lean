/-! Blank text: nothing but white space. -/
namespace RecordSearch.Text

/-- The code points with the white-space property. -/
def whiteSpace : List (Nat × Nat) :=
  [(0x9, 0xD), (0x20, 0x20), (0x85, 0x85), (0xA0, 0xA0), (0x1680, 0x1680), (0x2000, 0x200A),
    (0x2028, 0x2029), (0x202F, 0x202F), (0x205F, 0x205F), (0x3000, 0x3000)]

def isBlankChar (c : Char) : Bool :=
  whiteSpace.any fun (first, last) => decide (first ≤ c.toNat ∧ c.toNat ≤ last)

def isBlank (s : String) : Bool := s.toList.all isBlankChar

end RecordSearch.Text

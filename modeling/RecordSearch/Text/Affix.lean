/-! Beginnings, ends and parts of texts. -/
namespace RecordSearch.Text

/-- Whether `needle` stands somewhere in a list of characters. -/
def infixOf (needle : List Char) : List Char → Bool
  | [] => needle.isEmpty
  | c :: cs => needle.isPrefixOf (c :: cs) || infixOf needle cs

theorem infixOf_iff (needle cs : List Char) : infixOf needle cs = true ↔ needle <:+: cs := by
  induction cs with
  | nil => simp [infixOf]
  | cons c cs ih => simp [infixOf, ih, List.infix_cons_iff, List.isPrefixOf_iff_prefix]

def startsWith (s needle : String) : Bool := needle.toList.isPrefixOf s.toList
def endsWith (s needle : String) : Bool := needle.toList.reverse.isPrefixOf s.toList.reverse
def contains (s needle : String) : Bool := infixOf needle.toList s.toList

theorem startsWith_iff (s needle : String) :
    startsWith s needle = true ↔ needle.toList <+: s.toList := List.isPrefixOf_iff_prefix

theorem endsWith_iff (s needle : String) :
    endsWith s needle = true ↔ needle.toList <:+ s.toList := by
  simp [endsWith, List.isPrefixOf_iff_prefix]

theorem contains_iff (s needle : String) :
    contains s needle = true ↔ needle.toList <:+: s.toList := infixOf_iff _ _

end RecordSearch.Text

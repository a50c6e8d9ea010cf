import RecordSearch.Text.Letter

/-! Names of constants: the name of a field in capitals, with its words parted by underscores. -/
namespace RecordSearch

/-- Goes on after a small letter, or not. A capital after a small letter starts a word. Only the
plain small letters are raised. -/
def constantChars (afterSmall : Bool) : List Char → List Char
  | [] => []
  | c :: cs =>
    if Text.isUppercase c then
      if afterSmall then '_' :: c :: constantChars false cs else c :: constantChars false cs
    else if c = '_' ∨ c = '-' then '_' :: constantChars false cs
    else c.toUpper :: constantChars (Text.isAlphabetic c) cs

def constantName (field : String) : String := String.ofList (constantChars false field.toList)

example : constantChars false "createdAt".toList = "CREATED_AT".toList := by decide
example : constantChars false "job-title".toList = "JOB_TITLE".toList := by decide
example : constantChars false "IsActive".toList = "IS_ACTIVE".toList := by decide

end RecordSearch

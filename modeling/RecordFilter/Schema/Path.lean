import RecordFilter.Text.Blank
import RecordFilter.Text.LowerCase
import RecordFilter.Text.Pieces

/-!
# Paths

Fields are named by paths, whose segments have dots between them. Case does
not count in a path, nor do blanks around its segments.
-/

namespace RecordFilter.Path

open RecordFilter.Text

/-- The form that all spellings of a path share: every segment in lower case
and without blanks around it. -/
def normalize (path : String) : String :=
  String.intercalate "." ((pieces '.' path).map fun segment => lower (trim segment))

/-- The path of a member of a nested object. -/
def member (object path : String) : String :=
  object ++ "." ++ path

end RecordFilter.Path

/-!
# Pieces of a text

A text is cut at every occurrence of a separator (`pieces`) or at the first
one only (`cut`).
-/

namespace RecordFilter.Text

/-- The stretches between the separators, in order; one more than there are
separators, so never none. -/
def pieces (separator : Char) (s : String) : List String :=
  (s.toList.splitOn separator).map String.ofList

/-- The characters before the first separator, and those after it if there is
one. -/
def cutChars (separator : Char) : List Char → List Char × Option (List Char)
  | [] => ([], none)
  | c :: rest =>
    if c = separator then ([], some rest)
    else
      let (front, back) := cutChars separator rest
      (c :: front, back)

/-- The text before the first separator, and the text after it if there is
one. -/
def cut (separator : Char) (s : String) : String × Option String :=
  let (front, back) := cutChars separator s.toList
  (String.ofList front, back.map String.ofList)

end RecordFilter.Text

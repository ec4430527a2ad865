import RecordFilter.Text.LowerCase.Table
import RecordFilter.Text.Ranges

/-!
# Lower case

The full lower-case mapping of Unicode without language rules: one character
at a time, except that a capital sigma at the end of a word becomes the final
sigma. Nothing is folded, so letters that differ in more than case stay apart.
-/

namespace RecordFilter.Text

/-- The small letter of a code point by the first run that has it. -/
def lowerCode? : List CaseRun → Nat → Option Nat
  | [], _ => none
  | run :: rest, n =>
    if n < run.first then none
    else match run.lower? n with
      | some m => some m
      | none => lowerCode? rest n

/-- The small letter of a capital, and any other character itself. -/
def lowerLetter (c : Char) : Char :=
  match lowerCode? capitalRuns c.toNat with
  | some n => Char.ofNat n
  | none => c

/-- The small form of a character regardless of its neighbours. The dotted
capital I keeps its dot as a combining mark. -/
def lowerChar (c : Char) : List Char :=
  if c = '\u0130' then ['i', '\u0307'] else [lowerLetter c]

/-- Letters that have a case. -/
def isCased (c : Char) : Bool :=
  inRanges casedRanges c.toNat

/-- Characters that are passed over in the search for a cased neighbour. -/
def isCaseIgnorable (c : Char) : Bool :=
  inRanges caseIgnorableRanges c.toNat

/-- Whether the next character that counts is a cased letter. -/
def casedAhead (cs : List Char) : Bool :=
  match cs.dropWhile isCaseIgnorable with
  | c :: _ => isCased c
  | [] => false

/-- Whether the last character that counts is a cased letter, once `c` has
been read. -/
def casedBehind (before : Bool) (c : Char) : Bool :=
  if isCaseIgnorable c then before else isCased c

/-- Lower case of what follows; `before` says whether the last character that
counts was a cased letter. -/
def lowerAfter (before : Bool) : List Char → List Char
  | [] => []
  | c :: rest =>
    (if c = 'Σ' then [if before && !casedAhead rest then 'ς' else 'σ'] else lowerChar c)
      ++ lowerAfter (casedBehind before c) rest

/-- Lower case of a list of characters. -/
def lowerChars (cs : List Char) : List Char :=
  lowerAfter false cs

/-- The text in lower case. -/
def lower (s : String) : String :=
  String.ofList (lowerChars s.toList)

end RecordFilter.Text

import RecordFilter.Text.Quoted.Table
import RecordFilter.Text.Ranges

/-!
# Quoted text

A text between double quotes in which every character that does not print is
escaped.
-/

namespace RecordFilter.Text

/-- A code point by number: `\u` and its shortest lower-case hexadecimal form
in braces. -/
def codeEscape (c : Char) : List Char :=
  ['\\', 'u', '\x7b'] ++ Nat.toDigits 16 c.toNat ++ ['\x7d']

/-- How a character stands inside quotes. An apostrophe stands for itself. -/
def quotedChar (c : Char) : List Char :=
  if c = '"' then ['\\', '"']
  else if c = '\\' then ['\\', '\\']
  else if c = '\n' then ['\\', 'n']
  else if c = '\r' then ['\\', 'r']
  else if c = '\t' then ['\\', 't']
  else if c = '\x00' then ['\\', '0']
  else if inRanges escapedRanges c.toNat then codeEscape c
  else [c]

/-- The text in double quotes. -/
def quote (s : String) : String :=
  String.ofList ('"' :: s.toList.flatMap quotedChar ++ ['"'])

end RecordFilter.Text

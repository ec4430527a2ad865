import RecordFilter.Number.Hexadecimal

/-!
# Texts in JSON

The writing of texts as JSON strings. Only the quote, the backslash and the
control characters below the space are escaped.
-/

namespace RecordFilter.Json

open RecordFilter.Number

/-- How a character stands in a string. Control characters that have no short
escape are written by number. -/
def escapedChar (c : Char) : List Char :=
  if c = '"' then ['\\', '"']
  else if c = '\\' then ['\\', '\\']
  else if c = '\x08' then ['\\', 'b']
  else if c = '\x0c' then ['\\', 'f']
  else if c = '\n' then ['\\', 'n']
  else if c = '\r' then ['\\', 'r']
  else if c = '\t' then ['\\', 't']
  else if c.toNat < 0x20 then
    ['\\', 'u', '0', '0', lastHexDigit (c.toNat / 16), lastHexDigit c.toNat]
  else [c]

/-- The text as a string between quotes. -/
def stringChars (s : String) : List Char :=
  '"' :: s.toList.flatMap escapedChar ++ ['"']

end RecordFilter.Json

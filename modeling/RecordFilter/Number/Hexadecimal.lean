/-!
# Hexadecimal digits

The sixteen digits that identifiers and escapes are written with. They are written
in lower case and read in either case.
-/

namespace RecordFilter.Number

/-- The sixteen digits in lower case. -/
def hexDigits : List Char :=
  ['0', '1', '2', '3', '4', '5', '6', '7', '8', '9', 'a', 'b', 'c', 'd', 'e', 'f']

/-- A digit in lower case. -/
def hexDigit (n : Fin 16) : Char :=
  hexDigits[n.val]

/-- The last digit of a number in lower case. -/
def lastHexDigit (n : Nat) : Char :=
  hexDigit ⟨n % 16, by omega⟩

/-- The value of a digit in either case. -/
def hexValue? (c : Char) : Option (Fin 16) :=
  (List.finRange 16).find? fun n => hexDigit n = c.toLower

theorem hexValue?_hexDigit (n : Fin 16) : hexValue? (hexDigit n) = some n := by
  revert n
  decide

theorem hexValue?_lastHexDigit (n : Nat) :
    ∃ digit, hexValue? (lastHexDigit n) = some digit ∧ digit.val = n % 16 :=
  ⟨_, hexValue?_hexDigit _, rfl⟩

end RecordFilter.Number

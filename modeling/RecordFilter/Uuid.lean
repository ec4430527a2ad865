import RecordFilter.Number.Hexadecimal

/-!
# UUIDs

A UUID is thirty-two hexadecimal digits. It is written in five groups with
hyphens between them, and may be read without hyphens, in braces or as a URN.
-/

namespace RecordFilter

open RecordFilter.Number

/-- A universally unique identifier by its hexadecimal digits. -/
structure Uuid where
  digits : List (Fin 16)
  length_digits : digits.length = 32
deriving DecidableEq

/-- Why a text is no UUID. -/
inductive UuidFault
  | length (found : Nat)
  | character (found : Char) (position : Nat)
  | groupCount (found : Nat)
  | groupLength (group expected found : Nat)
deriving DecidableEq, Repr

def UuidFault.message : UuidFault → String
  | .length found => s!"invalid length: found {found}"
  | .character found position => s!"invalid character: found `{found}` at {position}"
  | .groupCount found => s!"invalid group count: expected 5, found {found}"
  | .groupLength group expected found =>
    s!"invalid group length in group {group}: expected {expected}, found {found}"

namespace Uuid

/-- UUIDs in the order of their digits. -/
instance : Ord Uuid where
  compare := compareOn Uuid.digits

/-- The UUID of zeros only. -/
def nil : Uuid :=
  ⟨List.replicate 32 0, rfl⟩

/-- Lengths of the groups. -/
def groupLengths : List Nat :=
  [8, 4, 4, 4, 12]

/-- Cuts a list into stretches of the given lengths. -/
def stretches {α : Type} : List Nat → List α → List (List α)
  | [], _ => []
  | n :: lengths, xs => xs.take n :: stretches lengths (xs.drop n)

/-- Characters of the text of a UUID. -/
def chars (u : Uuid) : List Char :=
  ['-'].intercalate (stretches groupLengths (u.digits.map hexDigit))

/-- Five groups of lower-case digits with hyphens between them. -/
def text (u : Uuid) : String :=
  String.ofList u.chars

/-- Reads thirty-two digits. -/
def ofHex? (cs : List Char) : Option Uuid := do
  let digits ← cs.mapM hexValue?
  if h : digits.length = 32 then some ⟨digits, h⟩ else none

/-- Reads digits in five groups of the right lengths. -/
def ofGroups? (cs : List Char) : Option Uuid :=
  let groups := cs.splitOn '-'
  if groups.map List.length = groupLengths then ofHex? groups.flatten else none

/-- What stands between a pair of braces around the whole text. -/
def unbrace? : List Char → Option (List Char)
  | [] => none
  | c :: rest => if c = '\x7b' ∧ rest.getLast? = some '\x7d' then some rest.dropLast else none

/-- What follows the name space of UUIDs in a URN, which may be in any case. -/
def urnRest? (cs : List Char) : Option (List Char) :=
  if (cs.take 9).map Char.toLower = ['u', 'r', 'n', ':', 'u', 'u', 'i', 'd', ':'] then
    some (cs.drop 9)
  else none

/-- The number of bytes of a text in UTF-8. -/
def byteLength (cs : List Char) : Nat :=
  cs.foldr (fun c count => c.utf8Size + count) 0

/-- The part of a text that has to be in groups, if the text is as long as a
UUID with hyphens, alone, in braces or as a URN. -/
def grouped? (cs : List Char) : Option (List Char) :=
  if byteLength cs = 36 then some cs
  else if byteLength cs = 38 then unbrace? cs
  else if byteLength cs = 45 then urnRest? cs
  else none

/-- The first group but for the last whose length is wrong. -/
def wrongGroup? : Nat → List Nat → List Nat → Option UuidFault
  | index, expected :: more, found :: rest =>
    if rest.isEmpty then none
    else if found = expected then wrongGroup? (index + 1) more rest
    else some (.groupLength index expected found)
  | _, _, _ => none

/-- The fault of a text whose digits start at the offset. The hyphens may be
missing altogether only if `plain`; then the length of the text is to blame. -/
def faultInside (cs : List Char) (plain : Bool) (offset : Nat) (inside : List Char) :
    UuidFault :=
  match inside.findIdx? (fun c => c ≠ '-' ∧ hexValue? c = none) with
  | some i => .character (inside.getD i '-') (i + offset)
  | none =>
    let hyphens := inside.count '-'
    if plain && hyphens = 0 then .length (byteLength cs)
    else if hyphens ≠ 4 then .groupCount (hyphens + 1)
    else
      match wrongGroup? 0 groupLengths ((inside.splitOn '-').map List.length) with
      | some fault => fault
      | none => .groupLength 4 12 (byteLength cs - 24)

/-- The fault of a text that is not as long as a UUID with hyphens. -/
def faultOf (cs : List Char) : UuidFault :=
  if 45 < byteLength cs then .length (byteLength cs)
  else
    match unbrace? cs with
    | some inside => faultInside cs false 1 inside
    | none =>
      match urnRest? cs with
      | some inside => faultInside cs false 9 inside
      | none => faultInside cs true 0 cs

/-- Reads a UUID in any of its forms. -/
def read (cs : List Char) : Except UuidFault Uuid :=
  match grouped? cs with
  | some inside =>
    match ofGroups? inside with
    | some u => .ok u
    | none => .error (faultInside inside false 0 inside)
  | none =>
    match ofHex? cs with
    | some u => .ok u
    | none => .error (faultOf cs)

end Uuid

end RecordFilter

import RecordFilter.Number.FloatText
import RecordFilter.Text.Quoted
import RecordFilter.Value.Type

/-!
# Values

What a field of a record holds, and what a literal stands for. Values of one
kind are compared; values of different kinds are neither equal nor ordered.
-/

namespace RecordFilter

open RecordFilter.Number RecordFilter.Calendar RecordFilter.Text

/-- A value by kind. `null` is the absence of a value, `object` the presence of
a nested object. -/
inductive Value
  | null
  | bool (b : Bool)
  | int (n : Int)
  | uint (n : Nat)
  | float (x : Float)
  | text (s : String)
  | dateTime (t : DateTime)
  | date (d : Date)
  | uuid (u : Uuid)
  | enum (index : Nat)
  | object

/-- The value of a member of a carrier. Numbers keep their signedness but not
their width. -/
def ValueType.value : (t : ValueType) → t.Carrier → Value
  | .int t, n => if t.signed then .int n.val else .uint n.val.toNat
  | .float .single, x => .float (Float32.toFloat x)
  | .float .double, x => .float x
  | .bool, b => .bool b
  | .text, s => .text s
  | .dateTime, t => .dateTime t
  | .date, d => .date d
  | .uuid, u => .uuid u
  | .enum _ _, index => .enum index
  | .object _, _ => .object

/-- The order of floating point numbers, in which a number that is none has no
place and both zeros have the same. -/
def compareFloat? (x y : Float) : Option Ordering :=
  if x < y then some .lt
  else if x == y then some .eq
  else if y < x then some .gt
  else none

namespace Value

def isNull : Value → Bool
  | .null => true
  | _ => false

/-- The text of a text value. -/
def text? : Value → Option String
  | .text s => some s
  | _ => none

/-- Equality of values; floating point numbers are equal as numbers. -/
def equal : Value → Value → Bool
  | .null, .null => true
  | .bool a, .bool b => a == b
  | .int a, .int b => a == b
  | .uint a, .uint b => a == b
  | .float a, .float b => a == b
  | .text a, .text b => a == b
  | .dateTime a, .dateTime b => a == b
  | .date a, .date b => a == b
  | .uuid a, .uuid b => a == b
  | .enum a, .enum b => a == b
  | .object, .object => true
  | _, _ => false

instance : BEq Value := ⟨equal⟩

/-- The order of values. Only values of the same kind are ordered; the absence
of a value and objects have no order, not even with themselves. -/
def compare? : Value → Value → Option Ordering
  | .bool a, .bool b => some (compare a b)
  | .int a, .int b => some (compare a b)
  | .uint a, .uint b => some (compare a b)
  | .float a, .float b => compareFloat? a b
  | .text a, .text b => some (compare a b)
  | .dateTime a, .dateTime b => some (compare a b)
  | .date a, .date b => some (compare a b)
  | .uuid a, .uuid b => some (compare a b)
  | .enum a, .enum b => some (compare a b)
  | _, _ => none

/-- The value as it stands in a condition. -/
def render : Value → String
  | .null => "null"
  | .bool b => if b then "true" else "false"
  | .int n => String.ofList (signedDigits n)
  | .uint n => String.ofList (digits n)
  | .float x => plainFloat x
  | .text s => quote s
  | .dateTime t => t.text
  | .date d => d.text
  | .uuid u => u.text
  | .enum index => String.ofList ('#' :: digits index)
  | .object => "\x7b..\x7d"

end Value

end RecordFilter

import RecordFilter.Text.Blank
import RecordFilter.Text.LowerCase

/-!
# Operators

The tests that a clause can name, with the tokens that name them and the
number of values that they take.
-/

namespace RecordFilter

open RecordFilter.Text

/-- The test that a clause makes. -/
inductive Operator
  | equals | notEquals
  | greater | greaterOrEqual | less | lessOrEqual
  | contains | startsWith | endsWith
  | between | oneOf
  | isNull | isNotNull
deriving DecidableEq, Repr

/-- A number of values, fixed or at least so many. -/
inductive Arity
  | exactly (count : Nat)
  | atLeast (count : Nat)
deriving DecidableEq, Repr

def Arity.render : Arity → String
  | .exactly count => s!"exactly {count}"
  | .atLeast count => s!"at least {count}"

namespace Operator

/-- Every operator, in the order of the declaration. -/
def all : List Operator :=
  [.equals, .notEquals, .greater, .greaterOrEqual, .less, .lessOrEqual, .contains,
   .startsWith, .endsWith, .between, .oneOf, .isNull, .isNotNull]

/-- The token of the operator in a clause. -/
def token : Operator → String
  | .equals => "eq"
  | .notEquals => "neq"
  | .greater => "gt"
  | .greaterOrEqual => "gte"
  | .less => "lt"
  | .lessOrEqual => "lte"
  | .contains => "contains"
  | .startsWith => "startswith"
  | .endsWith => "endswith"
  | .between => "between"
  | .oneOf => "in"
  | .isNull => "isnull"
  | .isNotNull => "notnull"

/-- The operator of a token in lower case and without blanks. -/
def ofToken? (token : String) : Option Operator :=
  all.find? (·.token == token)

/-- The token that a text stands for: without blanks around it, and in lower
case. -/
def tokenOf (s : String) : String :=
  lower (trim s)

/-- Every operator but the two tests for null compares with values. -/
def takesValues : Operator → Bool
  | .isNull | .isNotNull => false
  | _ => true

/-- The number of values that the operator can work with. -/
def arity : Operator → Arity
  | .between => .exactly 2
  | .isNull | .isNotNull => .exactly 0
  | _ => .atLeast 1

end Operator

end RecordFilter

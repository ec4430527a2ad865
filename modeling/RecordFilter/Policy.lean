import RecordFilter.Clause.Condition
import RecordFilter.Whitelist

/-!
# Policies

What a filter may do: the paths that it may name and the number of its
clauses. A filter is read under a policy, first as clauses and then, with a
schema, as one predicate.
-/

namespace RecordFilter

open RecordFilter.Text

variable {T : Type}

/-- Limits on filters; where one is missing, all is allowed. -/
structure Policy where
  whitelist : Option Whitelist := none
  maxClauses : Option Nat := none

/-- The conjunction of a predicate with those of some clauses. -/
def Predicate.andClauses {schema : Schema T} (p : Predicate schema) :
    List Clause → Except FilterError (Predicate schema)
  | [] => .ok p
  | c :: rest => do
    let q ← Predicate.ofClause schema c
    (p.and q).andClauses rest

namespace Policy

/-- Whether a path may be named. -/
def allows (policy : Policy) (path : String) : Bool :=
  match policy.whitelist with
  | some w => w.allows path
  | none => true

/-- Whether there may be so many clauses. -/
def admits (policy : Policy) (count : Nat) : Except FilterError Unit :=
  match policy.maxClauses with
  | some limit => if limit < count then .error (.tooManyClauses count limit) else .ok ()
  | none => .ok ()

/-- Reads one clause, which has to be on an allowed path. -/
def readClause (policy : Policy) (segment : String) : Except FilterError Clause := do
  let c ← Clause.parse segment
  if policy.allows c.property then return c else throw (.propertyNotAllowed c.property)

/-- The clauses of a filter. Their number is checked before any of them is
read. -/
def clauses (policy : Policy) (filter : String) : Except FilterError (List Clause) := do
  let segments := Clause.segments filter
  policy.admits segments.length
  segments.mapM policy.readClause

/-- The predicate of a filter. All clauses are read before the first of them
meets the schema. A blank filter is true of every record. -/
def parse (policy : Policy) (schema : Schema T) (filter : String) :
    Except FilterError (Predicate schema) :=
  if isBlank filter then .ok .always
  else
    ((policy.clauses filter).bind Predicate.always.andClauses).mapError (.inFilter filter)

end Policy

end RecordFilter

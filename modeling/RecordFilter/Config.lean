import RecordFilter.Json.Document
import RecordFilter.Json.Text
import RecordFilter.Policy
import RecordFilter.Text.Quoted

/-!
# Configurations

The settings of a policy as they stand in a JSON document: an object with the
members `allowed_properties` and `max_clauses`, or an array of the two. Both may
be missing or null, and members of other names are passed over.
-/

namespace RecordFilter

open RecordFilter.Number RecordFilter.Text

/-- Settings of a policy. -/
structure Config where
  allowedProperties : Option (List String) := none
  maxClauses : Option UInt64 := none
deriving DecidableEq

/-- Why a text is no configuration. -/
inductive ConfigError
  | unreadable
  | noClauses
  | blankProperty (property : String)
deriving DecidableEq, Repr

/-- What is wrong with a configuration that could be read. -/
def ConfigError.message : ConfigError → String
  | .unreadable => "Deserialization error"
  | .noClauses => "Invalid config: max_clauses must be at least 1"
  | .blankProperty property =>
    s!"Invalid config: allowed_properties contains a blank entry: {quote property}"

namespace Config

/-! ## Reading -/

/-- A text. -/
def readText? : Json.Document → Option String
  | .string content => content
  | _ => none

/-- A list of texts, or nothing. -/
def readAllowed? : Json.Document → Option (Option (List String))
  | .null => some none
  | .array items => (items.mapM readText?).map some
  | _ => none

/-- A natural number of sixty-four bits in plain digits, or nothing. -/
def readLimit? : Json.Document → Option (Option UInt64)
  | .null => some none
  | .number (some n) => if h : n < UInt64.size then some (some (UInt64.ofNatLT n h)) else none
  | _ => none

/-- The members of a name. -/
def membersNamed (name : String) (members : List (Option String × Json.Document)) :
    List Json.Document :=
  (members.filter fun member => member.1 = some name).map Prod.snd

/-- What a reader finds in the only document of a list; a missing one stands
for nothing. -/
def readOnly? {α : Type} (read : Json.Document → Option (Option α)) :
    List Json.Document → Option (Option α)
  | [] => some none
  | [d] => read d
  | _ => none

/-- The settings in a document. -/
def ofDocument? : Json.Document → Option Config
  | .object members => do
    if members.any (·.1.isNone) then none
    let allowedProperties ← readOnly? readAllowed? (membersNamed "allowed_properties" members)
    let maxClauses ← readOnly? readLimit? (membersNamed "max_clauses" members)
    return { allowedProperties, maxClauses }
  | .array items => do
    if 2 < items.length then none
    let allowedProperties ← readOnly? readAllowed? (items.take 1)
    let maxClauses ← readOnly? readLimit? (items.drop 1)
    return { allowedProperties, maxClauses }
  | _ => none

/-- Refuses a limit of no clauses, and blank paths. -/
def validate (c : Config) : Except ConfigError Unit :=
  if c.maxClauses = some 0 then .error .noClauses
  else
    match (c.allowedProperties.getD []).find? isBlank with
    | some property => .error (.blankProperty property)
    | none => .ok ()

/-- Reads and validates a configuration. -/
def parse (s : String) : Except ConfigError Config :=
  match (Json.Document.parse? s).bind ofDocument? with
  | none => .error .unreadable
  | some c => c.validate.map fun _ => c

/-! ## Writing -/

private def nullChars : List Char :=
  ['n', 'u', 'l', 'l']

/-- The allowed paths as an array, or null. -/
def allowedChars : Option (List String) → List Char
  | none => nullChars
  | some paths => '[' :: [','].intercalate (paths.map Json.stringChars) ++ [']']

/-- The limit in digits, or null. -/
def limitChars : Option UInt64 → List Char
  | none => nullChars
  | some limit => digits limit.toNat

/-- The configuration as an object, without blanks. -/
def render (c : Config) : String :=
  String.ofList <|
    '\x7b' :: Json.stringChars "allowed_properties" ++ ':' :: allowedChars c.allowedProperties ++
      ',' :: Json.stringChars "max_clauses" ++ ':' :: limitChars c.maxClauses ++ ['\x7d']

/-! ## Use -/

/-- The whitelist of the allowed paths, if there is a list of them. -/
def whitelist (c : Config) : Option Whitelist :=
  c.allowedProperties.map Whitelist.ofList

/-- The policy of the settings. -/
def policy (c : Config) : Policy where
  whitelist := c.whitelist
  maxClauses := c.maxClauses.map UInt64.toNat

end Config

end RecordFilter

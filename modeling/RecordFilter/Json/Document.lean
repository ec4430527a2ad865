import RecordFilter.Json.Token

/-!
# JSON documents

The second step of reading JSON makes a document of the tokens. What is still
open is kept as a stack, so that documents may be nested to any depth.
-/

namespace RecordFilter.Json

/-- A document. Keys and texts that do not form a text have no content. -/
inductive Document
  | null
  | bool (b : Bool)
  | number (natural : Option Nat)
  | string (content : Option String)
  | array (items : List Document)
  | object (members : List (Option String × Document))

/-- An array or an object that is still open, with what it has so far, the
last first. An object waits for the value of a key. -/
inductive Frame
  | array (items : List Document)
  | object (members : List (Option String × Document)) (key : Option String)

/-- What may come next. -/
inductive Expectation
  | value
  | valueOrEnd
  | separator
  | key (members : List (Option String × Document))
  | keyOrEnd
  | colon (members : List (Option String × Document)) (key : Option String)
  | nothing (document : Document)

/-- The open arrays and objects, the innermost first, and what may come
next. After a separator the innermost one is complete so far. -/
structure Assembly where
  frames : List Frame := []
  expectation : Expectation := .value

namespace Assembly

/-- A complete document takes its place in the innermost frame. -/
def place (frames : List Frame) (d : Document) : Assembly :=
  match frames with
  | [] => ⟨[], .nothing d⟩
  | .array items :: outer => ⟨.array (d :: items) :: outer, .separator⟩
  | .object members key :: outer => ⟨.object ((key, d) :: members) none :: outer, .separator⟩

/-- Begins a value. -/
def value? (frames : List Frame) : Token → Option Assembly
  | .null => some (place frames .null)
  | .bool b => some (place frames (.bool b))
  | .number n => some (place frames (.number n))
  | .string s => some (place frames (.string s))
  | .openArray => some ⟨.array [] :: frames, .valueOrEnd⟩
  | .openObject => some ⟨frames, .keyOrEnd⟩
  | _ => none

/-- Ends the innermost frame, or goes on in it after a comma. -/
def separator? : List Frame → Token → Option Assembly
  | .array items :: outer, .closeArray => some (place outer (.array items.reverse))
  | .array items :: outer, .comma => some ⟨.array items :: outer, .value⟩
  | .object members _ :: outer, .closeObject => some (place outer (.object members.reverse))
  | .object members _ :: outer, .comma => some ⟨outer, .key members⟩
  | _, _ => none

/-- Goes on by a token. -/
def step? (a : Assembly) (t : Token) : Option Assembly :=
  match a.expectation, t with
  | .value, t => value? a.frames t
  | .valueOrEnd, .closeArray => separator? a.frames .closeArray
  | .valueOrEnd, t => value? a.frames t
  | .separator, t => separator? a.frames t
  | .keyOrEnd, .closeObject => some (place a.frames (.object []))
  | .keyOrEnd, .string key => some ⟨a.frames, .colon [] key⟩
  | .key members, .string key => some ⟨a.frames, .colon members key⟩
  | .colon members key, .colon => some ⟨.object members key :: a.frames, .value⟩
  | _, _ => none

/-- The document, once it is complete. -/
def result? (a : Assembly) : Option Document :=
  match a.expectation with
  | .nothing d => some d
  | _ => none

end Assembly

/-- Reads a document, which has to be the whole text. -/
def Document.parse? (s : String) : Option Document :=
  (tokens? s.toList).bind fun ts => (ts.foldlM Assembly.step? {}).bind Assembly.result?

end RecordFilter.Json

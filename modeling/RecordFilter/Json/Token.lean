import RecordFilter.Number.Decimal
import RecordFilter.Number.Hexadecimal

/-!
# Tokens of JSON

JSON texts are read in two steps; the first one cuts the text into tokens. The
lexer goes through the text once, and a mode says what the characters so far
leave open.
-/

namespace RecordFilter.Json

open RecordFilter.Number

/-- A token. A string whose escapes do not form a text, because half of a
surrogate pair is missing, has no content. Of a number only that counts
whether it is a natural number in plain digits. -/
inductive Token
  | openObject | closeObject | openArray | closeArray | comma | colon
  | null
  | bool (b : Bool)
  | number (natural : Option Nat)
  | string (content : Option String)
deriving DecidableEq, Repr

/-! ## Numbers -/

/-- The exponent part of a number: nothing, or `e`, an optional sign and
digits. -/
def isExponent : List Char → Bool
  | [] => true
  | c :: rest =>
    (c = 'e' || c = 'E') &&
      match rest with
      | [] => false
      | sign :: more =>
        let ds := if sign = '+' ∨ sign = '-' then more else sign :: more
        !ds.isEmpty && ds.all Char.isDigit

/-- What may follow the whole part of a number: an optional fraction of at
least one digit, and an optional exponent. -/
def isFraction : List Char → Bool
  | '.' :: rest =>
    let (ds, rest) := spanDigits rest
    !ds.isEmpty && isExponent rest
  | cs => isExponent cs

/-- A number without its sign. Only a zero by itself may begin with zero. -/
def isUnsigned : List Char → Bool
  | '0' :: rest => isFraction rest
  | c :: rest => c.isDigit && isFraction (spanDigits rest).2
  | [] => false

/-- The token of a number's characters. -/
def numberToken? (cs : List Char) : Option Token :=
  let unsigned := match cs with
    | '-' :: rest => rest
    | _ => cs
  if isUnsigned unsigned then
    some (.number (if cs.all Char.isDigit then some (ofDigits cs) else none))
  else none

/-- Characters that continue a number. -/
def isNumberChar (c : Char) : Bool :=
  c.isDigit || c = '+' || c = '-' || c = '.' || c = 'e' || c = 'E'

/-! ## Words -/

/-- The token of a word in small letters. -/
def wordToken? (cs : List Char) : Option Token :=
  if cs = ['n', 'u', 'l', 'l'] then some .null
  else if cs = ['t', 'r', 'u', 'e'] then some (.bool true)
  else if cs = ['f', 'a', 'l', 's', 'e'] then some (.bool false)
  else none

/-! ## Strings -/

/-- What a string's last characters leave open: nothing, the character after
a backslash, or the rest of four hexadecimal digits. -/
inductive Escape
  | none
  | backslash
  | code (missing value : Nat)
deriving DecidableEq, Repr

/-- A string up to some character of it: its content backwards, a first
surrogate that waits for the second, and whether some surrogate has gone
without the other. -/
structure StringPart where
  reversed : List Char := []
  surrogate : Option Nat := .none
  broken : Bool := false
  escape : Escape := .none
deriving DecidableEq, Repr

namespace StringPart

/-- Adds a character. A first surrogate has then waited in vain. -/
def push (p : StringPart) (c : Char) : StringPart :=
  { reversed := c :: p.reversed, broken := p.broken || p.surrogate.isSome }

/-- Adds a code unit: a character, or half of a surrogate pair. -/
def pushUnit (p : StringPart) (unit : Nat) : StringPart :=
  if 0xD800 ≤ unit ∧ unit ≤ 0xDBFF then
    { reversed := p.reversed, surrogate := some unit
      broken := p.broken || p.surrogate.isSome }
  else if 0xDC00 ≤ unit ∧ unit ≤ 0xDFFF then
    match p.surrogate with
    | some first =>
      { reversed := Char.ofNat (0x10000 + (first - 0xD800) * 0x400 + (unit - 0xDC00)) :: p.reversed
        broken := p.broken }
    | .none => { reversed := p.reversed, broken := true }
  else p.push (Char.ofNat unit)

/-- The character of a short escape. -/
def short? (c : Char) : Option Char :=
  if c = '"' then some '"'
  else if c = '\\' then some '\\'
  else if c = '/' then some '/'
  else if c = 'b' then some '\x08'
  else if c = 'f' then some '\x0c'
  else if c = 'n' then some '\n'
  else if c = 'r' then some '\r'
  else if c = 't' then some '\t'
  else none

/-- The content of a string at its end, unless it is broken. -/
def content (p : StringPart) : Option String :=
  if p.broken || p.surrogate.isSome then .none else some (String.ofList p.reversed.reverse)

/-- Goes on by a character that is not the closing quote. Control characters
must be escaped. -/
def step? (p : StringPart) (c : Char) : Option StringPart :=
  match p.escape with
  | .none =>
    if c = '\\' then some { p with escape := .backslash }
    else if c.toNat < 0x20 then .none
    else some (p.push c)
  | .backslash =>
    if c = 'u' then some { p with escape := .code 4 0 }
    else (short? c).map p.push
  | .code missing value =>
    (hexValue? c).map fun digit =>
      if missing ≤ 1 then { p with escape := .none }.pushUnit (16 * value + digit.val)
      else { p with escape := .code (missing - 1) (16 * value + digit.val) }

end StringPart

/-! ## The lexer -/

/-- What the characters so far leave open. -/
inductive Mode
  | between
  | number (reversed : List Char)
  | word (reversed : List Char)
  | string (part : StringPart)
deriving DecidableEq, Repr

/-- The tokens so far, the last one first, and the mode. -/
structure Lexer where
  reversed : List Token := []
  mode : Mode := .between
deriving DecidableEq, Repr

namespace Lexer

def emit (l : Lexer) (t : Token) : Lexer :=
  { reversed := t :: l.reversed }

/-- The token that a character is by itself. -/
def punctuation? (c : Char) : Option Token :=
  if c = '\x7b' then some .openObject
  else if c = '\x7d' then some .closeObject
  else if c = '[' then some .openArray
  else if c = ']' then some .closeArray
  else if c = ',' then some .comma
  else if c = ':' then some .colon
  else none

/-- Goes on by a character between tokens. -/
def start? (l : Lexer) (c : Char) : Option Lexer :=
  match punctuation? c with
  | some t => some (l.emit t)
  | none =>
    if c = ' ' ∨ c = '\n' ∨ c = '\r' ∨ c = '\t' then some { l with mode := .between }
    else if c = '"' then some { l with mode := .string {} }
    else if c.isDigit ∨ c = '-' then some { l with mode := .number [c] }
    else if c.isLower then some { l with mode := .word [c] }
    else none

/-- Ends a number or a word, which only what follows it shows to be over. -/
def close? (l : Lexer) : Option Lexer :=
  match l.mode with
  | .between => some l
  | .number reversed => (numberToken? reversed.reverse).map l.emit
  | .word reversed => (wordToken? reversed.reverse).map l.emit
  | .string _ => none

/-- Goes on by a character. -/
def step? (l : Lexer) (c : Char) : Option Lexer :=
  match l.mode with
  | .between => l.start? c
  | .number reversed =>
    if isNumberChar c then some { l with mode := .number (c :: reversed) }
    else l.close?.bind (·.start? c)
  | .word reversed =>
    if c.isLower then some { l with mode := .word (c :: reversed) }
    else l.close?.bind (·.start? c)
  | .string part =>
    if c = '"' ∧ part.escape = .none then some (l.emit (.string part.content))
    else (part.step? c).map fun part => { l with mode := .string part }

end Lexer

/-- The tokens of a text. -/
def tokens? (cs : List Char) : Option (List Token) :=
  ((cs.foldlM Lexer.step? {}).bind Lexer.close?).map (·.reversed.reverse)

end RecordFilter.Json

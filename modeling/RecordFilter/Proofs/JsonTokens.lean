import Mathlib.Data.List.Chain
import RecordFilter.Json.Text
import RecordFilter.Json.Token
import RecordFilter.Proofs.Digits

/-!
# Tokens written and read back

Tokens that are written one behind the other are cut apart again, whatever the texts
in them: every escape stands for the character that it is written for. Only numbers
and words need something else behind them, because nothing of their own shows where
they end.
-/

namespace RecordFilter.Json

open Number

/-! ## Writing -/

/-- The characters of a token; none if it has no content. -/
def Token.chars : Token → List Char
  | .openObject => ['\x7b']
  | .closeObject => ['\x7d']
  | .openArray => ['[']
  | .closeArray => [']']
  | .comma => [',']
  | .colon => [':']
  | .null => ['n', 'u', 'l', 'l']
  | .bool true => ['t', 'r', 'u', 'e']
  | .bool false => ['f', 'a', 'l', 's', 'e']
  | .number natural => natural.elim [] digits
  | .string content => content.elim [] stringChars

/-- Texts and natural numbers are all that can be written. -/
def Token.isPlain : Token → Bool
  | .number natural => natural.isSome
  | .string content => content.isSome
  | _ => true

/-- Words and numbers, which end where something else begins. -/
def Token.isBare : Token → Bool
  | .null | .bool _ | .number _ => true
  | _ => false

/-- Characters that could belong to a word or to a number. -/
def isBareChar (c : Char) : Bool :=
  c.isLower || isNumberChar c

/-- The token ends where these characters begin. -/
def Token.EndsBefore (t : Token) (rest : List Char) : Prop :=
  t.isBare = true → ∀ c ∈ rest.head?, isBareChar c = false

/-! ## The lexer -/

namespace Lexer

/-- The tokens of a text of which these characters are left. -/
def finish (l : Lexer) (cs : List Char) : Option (List Token) :=
  ((cs.foldlM step? l).bind close?).map (·.reversed.reverse)

variable {found : List Token} {c : Char} {cs ds rest reversed word : List Char} {t : Token}

theorem finish_cons (l : Lexer) (c : Char) (cs : List Char) :
    l.finish (c :: cs) = (l.step? c).bind (·.finish cs) := by
  unfold finish
  rw [List.foldlM_cons]
  cases l.step? c <;> rfl

theorem finish_nil (found : List Token) : finish ⟨found, .between⟩ [] = some found.reverse :=
  rfl

/-! ## Signs -/

theorem finish_punctuation (sign : punctuation? c = some t) :
    finish ⟨found, .between⟩ (c :: cs) = finish ⟨t :: found, .between⟩ cs := by
  rw [finish_cons]
  show (start? ⟨found, .between⟩ c).bind _ = _
  rw [start?, sign]
  rfl

/-! ## Words -/

/-- What ends a word is read as if it stood alone. -/
theorem finish_word (known : wordToken? word.reverse = some t)
    (ends : ∀ c ∈ rest.head?, c.isLower = false) :
    finish ⟨found, .word word⟩ rest = finish ⟨t :: found, .between⟩ rest := by
  have closed : close? ⟨found, .word word⟩ = some ⟨t :: found, .between⟩ := by
    show (wordToken? word.reverse).map _ = _
    rw [known]
    rfl
  cases rest with
  | nil =>
      show ((some _).bind close?).map _ = _
      rw [Option.bind_some, closed]
      rfl
  | cons c rest =>
      have other : ¬ c.isLower = true := by simp [ends c rfl]
      rw [finish_cons, finish_cons]
      show (if c.isLower then _ else (close? ⟨found, .word word⟩).bind (·.start? c)).bind _ = _
      rw [if_neg other, closed]
      rfl

/-! ## Numbers -/

theorem isNumberChar_of_isDigit (digit : c.isDigit = true) : isNumberChar c = true := by
  simp [isNumberChar, digit]

theorem punctuation?_of_isDigit (digit : c.isDigit = true) : punctuation? c = none := by
  have range := toNat_of_isDigit digit
  unfold punctuation?
  repeat' split
  all_goals first | rfl | (subst_vars; revert range; decide)

/-- A digit between tokens begins a number. -/
theorem start?_of_isDigit (digit : c.isDigit = true) :
    start? ⟨found, .between⟩ c = some ⟨found, .number [c]⟩ := by
  have visible : ¬ (c = ' ' ∨ c = '\n' ∨ c = '\r' ∨ c = '\t') := by
    rintro (rfl | rfl | rfl | rfl) <;> cases digit
  have noQuote : c ≠ '"' := by
    rintro rfl
    cases digit
  rw [start?, punctuation?_of_isDigit digit]
  simp only [if_neg visible, if_neg noQuote, if_pos (Or.inl digit)]

/-- By induction on the digits: they all belong to the number. -/
theorem finish_digits (all : ∀ c ∈ ds, c.isDigit = true) :
    finish ⟨found, .number reversed⟩ (ds ++ rest) =
      finish ⟨found, .number (ds.reverse ++ reversed)⟩ rest := by
  induction ds generalizing reversed with
  | nil => rfl
  | cons c ds ih =>
      have first := isNumberChar_of_isDigit (all c List.mem_cons_self)
      have others : ∀ d ∈ ds, d.isDigit = true := fun d member => all d (.tail c member)
      rw [List.cons_append, finish_cons]
      show (if isNumberChar c then some (⟨found, .number (c :: reversed)⟩ : Lexer)
        else _).bind _ = _
      rw [if_pos first, Option.bind_some, ih others, List.reverse_cons, List.append_assoc]
      rfl

theorem finish_number (known : numberToken? reversed.reverse = some t)
    (ends : ∀ c ∈ rest.head?, isNumberChar c = false) :
    finish ⟨found, .number reversed⟩ rest = finish ⟨t :: found, .between⟩ rest := by
  have closed : close? ⟨found, .number reversed⟩ = some ⟨t :: found, .between⟩ := by
    show (numberToken? reversed.reverse).map _ = _
    rw [known]
    rfl
  cases rest with
  | nil =>
      show ((some _).bind close?).map _ = _
      rw [Option.bind_some, closed]
      rfl
  | cons c rest =>
      have other : ¬ isNumberChar c = true := by simp [ends c rfl]
      rw [finish_cons, finish_cons]
      show (if isNumberChar c then _ else
        (close? ⟨found, .number reversed⟩).bind (·.start? c)).bind _ = _
      rw [if_neg other, closed]
      rfl

/-- Only the number zero begins with a zero, because no number of fewer digits needs
as many. -/
theorem eq_nil_of_digits_eq_zero_cons {n : Nat} (leading : digits n = '0' :: ds) : ds = [] := by
  by_contra some
  have isDigit : ∀ c ∈ ds, c.isDigit = true := by
    intro c member
    exact isDigit_of_mem_digits (n := n) (leading ▸ List.mem_cons_of_mem '0' member)
  have value : ofDigits ds = n := by
    rw [← ofDigits_digits n, leading]
    simp [ofDigits, Nat.ofDigitChars_cons]
  have small : n < 10 ^ ds.length := by
    rw [← value]
    exact ofDigits_lt isDigit
  have short := length_digits_le small (List.length_pos_iff.mpr some)
  rw [leading, List.length_cons] at short
  omega

theorem isUnsigned_digits (n : Nat) : isUnsigned (digits n) = true := by
  obtain ⟨c, ds, first⟩ := List.exists_cons_of_ne_nil (digits_ne_nil n)
  have isDigit : ∀ d ∈ c :: ds, d.isDigit = true := fun d member =>
    isDigit_of_mem_digits (n := n) (first ▸ member)
  rw [first]
  unfold isUnsigned
  split
  · rename_i rest same
    obtain ⟨rfl, rfl⟩ := List.cons.inj same
    rw [eq_nil_of_digits_eq_zero_cons first]
    rfl
  · rename_i d rest _ same
    obtain ⟨rfl, rfl⟩ := List.cons.inj same
    have none : (spanDigits ds).2 = [] :=
      List.dropWhile_eq_nil_iff.mpr fun d member => isDigit d (.tail c member)
    rw [isDigit c List.mem_cons_self, none]
    rfl
  · rename_i same
    cases same

/-- The digits of a natural number are the number itself. -/
theorem numberToken?_digits (n : Nat) : numberToken? (digits n) = some (.number (some n)) := by
  have all : (digits n).all Char.isDigit = true :=
    List.all_eq_true.mpr fun _ => isDigit_of_mem_digits
  unfold numberToken?
  split
  · rename_i rest same
    have minus : '-'.isDigit = true :=
      isDigit_of_mem_digits (n := n) (same ▸ List.mem_cons_self)
    cases minus
  · show (if isUnsigned (digits n) = true then
      some (Token.number (if (digits n).all Char.isDigit = true then _ else none)) else none) = _
    rw [if_pos (isUnsigned_digits n), if_pos all, ofDigits_digits]

/-! ## Strings -/

/-- A character is escaped by a letter or a sign, by its number, or not at all. -/
theorem escapedChar_cases (c : Char) :
    (∃ letter, letter ≠ 'u' ∧ StringPart.short? letter = some c ∧
      escapedChar c = ['\\', letter]) ∨
    (c.toNat < 0x20 ∧ escapedChar c =
      ['\\', 'u', '0', '0', lastHexDigit (c.toNat / 16), lastHexDigit c.toNat]) ∨
    (c ≠ '"' ∧ c ≠ '\\' ∧ ¬ c.toNat < 0x20) ∧ escapedChar c = [c] := by
  by_cases short : c ∈ ['"', '\\', '\x08', '\x0c', '\n', '\r', '\t']
  · left
    simp only [List.mem_cons, List.not_mem_nil, or_false] at short
    obtain rfl | rfl | rfl | rfl | rfl | rfl | rfl := short <;>
      exact ⟨_, by decide, rfl, rfl⟩
  · right
    simp only [List.mem_cons, List.not_mem_nil, or_false, not_or] at short
    by_cases control : c.toNat < 0x20
    · left
      simp [escapedChar, short, control]
    · right
      simp [escapedChar, short, control]

theorem finish_short {letter : Char} (other : letter ≠ 'u')
    (short : StringPart.short? letter = some c) :
    finish ⟨found, .string { reversed }⟩ ('\\' :: letter :: cs) =
      finish ⟨found, .string { reversed := c :: reversed }⟩ cs := by
  simp [finish_cons, step?, StringPart.step?, StringPart.push, other, short]

theorem finish_numbered (control : c.toNat < 0x20) :
    finish ⟨found, .string { reversed }⟩
        ('\\' :: 'u' :: '0' :: '0' :: lastHexDigit (c.toNat / 16) :: lastHexDigit c.toNat :: cs) =
      finish ⟨found, .string { reversed := c :: reversed }⟩ cs := by
  obtain ⟨high, readHigh, highValue⟩ := hexValue?_lastHexDigit (c.toNat / 16)
  obtain ⟨low, readLow, lowValue⟩ := hexValue?_lastHexDigit c.toNat
  have whole : 16 * high.val + low.val = c.toNat := by omega
  have unit : StringPart.pushUnit { reversed } (16 * high.val + low.val) =
      { reversed := c :: reversed } := by
    rw [whole, StringPart.pushUnit, if_neg (by omega), if_neg (by omega), Char.ofNat_toNat]
    rfl
  -- up to the digits the characters are known
  show finish ⟨found, .string { reversed, escape := .code 2 0 }⟩
    (lastHexDigit (c.toNat / 16) :: lastHexDigit c.toNat :: cs) = _
  simp [finish_cons, step?, StringPart.step?, readHigh, readLow, unit]

theorem finish_plain (plain : c ≠ '"' ∧ c ≠ '\\' ∧ ¬ c.toNat < 0x20) :
    finish ⟨found, .string { reversed }⟩ (c :: cs) =
      finish ⟨found, .string { reversed := c :: reversed }⟩ cs := by
  simp [finish_cons, step?, StringPart.step?, StringPart.push, plain]

/-- Every escape stands for its character. -/
theorem finish_escapedChar (c : Char) (cs : List Char) :
    finish ⟨found, .string { reversed }⟩ (escapedChar c ++ cs) =
      finish ⟨found, .string { reversed := c :: reversed }⟩ cs := by
  rcases escapedChar_cases c with ⟨letter, other, short, escaped⟩ | ⟨control, escaped⟩ |
    ⟨plain, escaped⟩
  · rw [escaped]
    exact finish_short other short
  · rw [escaped]
    exact finish_numbered control
  · rw [escaped]
    exact finish_plain plain

/-- By induction on the text: between quotes it comes back as it is. -/
theorem finish_content (text reversed : List Char) :
    finish ⟨found, .string { reversed }⟩ (text.flatMap escapedChar ++ '"' :: rest) =
      finish ⟨.string (some (String.ofList (reversed.reverse ++ text))) :: found, .between⟩
        rest := by
  induction text generalizing reversed with
  | nil =>
      rw [List.append_nil]
      rfl
  | cons c text ih =>
      rw [List.flatMap_cons, List.append_assoc, finish_escapedChar, ih, List.reverse_cons,
        List.append_assoc]
      rfl

theorem finish_stringChars (s : String) :
    finish ⟨found, .between⟩ (stringChars s ++ rest) =
      finish ⟨.string (some s) :: found, .between⟩ rest := by
  have quoted : stringChars s ++ rest = '"' :: (s.toList.flatMap escapedChar ++ '"' :: rest) := by
    simp [stringChars]
  rw [quoted]
  show finish ⟨found, .string {}⟩ _ = _
  rw [finish_content s.toList [], List.reverse_nil, List.nil_append, String.ofList_toList]

/-! ## Tokens -/

/-- What is written for a token is read as the token. -/
theorem finish_chars (plain : t.isPlain = true) (ends : t.EndsBefore rest) :
    finish ⟨found, .between⟩ (t.chars ++ rest) = finish ⟨t :: found, .between⟩ rest := by
  have noLower (bare : t.isBare = true) : ∀ c ∈ rest.head?, c.isLower = false := by
    intro c next
    exact (Bool.or_eq_false_iff.mp (ends bare c next)).1
  have noNumber (bare : t.isBare = true) : ∀ c ∈ rest.head?, isNumberChar c = false := by
    intro c next
    exact (Bool.or_eq_false_iff.mp (ends bare c next)).2
  cases t with
  | openObject | closeObject | openArray | closeArray | comma | colon =>
      exact finish_punctuation rfl
  | null =>
      have known : wordToken? ['l', 'l', 'u', 'n'].reverse = some .null := rfl
      exact finish_word known (noLower rfl)
  | bool b =>
      cases b with
      | true =>
          have known : wordToken? ['e', 'u', 'r', 't'].reverse = some (.bool true) := rfl
          exact finish_word known (noLower rfl)
      | false =>
          have known : wordToken? ['e', 's', 'l', 'a', 'f'].reverse = some (.bool false) := rfl
          exact finish_word known (noLower rfl)
  | number natural =>
      obtain ⟨n, rfl⟩ := Option.isSome_iff_exists.mp plain
      obtain ⟨c, ds, first⟩ := List.exists_cons_of_ne_nil (digits_ne_nil n)
      have isDigit : ∀ d ∈ c :: ds, d.isDigit = true := fun d member =>
        isDigit_of_mem_digits (n := n) (first ▸ member)
      have known : numberToken? (ds.reverse ++ [c]).reverse = some (.number (some n)) := by
        rw [List.reverse_append, List.reverse_reverse, ← numberToken?_digits n, first]
        rfl
      show finish ⟨found, .between⟩ (digits n ++ rest) = _
      rw [first, List.cons_append, finish_cons]
      show (start? ⟨found, .between⟩ c).bind _ = _
      rw [start?_of_isDigit (isDigit c List.mem_cons_self), Option.bind_some,
        finish_digits fun d member => isDigit d (.tail c member)]
      exact finish_number known (noNumber rfl)
  | string content =>
      obtain ⟨s, rfl⟩ := Option.isSome_iff_exists.mp plain
      exact finish_stringChars s

end Lexer

/-- No word or number stands right behind another one. -/
def Token.Apart (t u : Token) : Prop :=
  t.isBare = true → u.isBare = false

/-- What is no word and no number begins with a character of neither. -/
theorem Token.exists_chars_eq_cons {t : Token} (plain : t.isPlain = true)
    (other : t.isBare = false) : ∃ c cs, t.chars = c :: cs ∧ isBareChar c = false := by
  cases t with
  | openObject | closeObject | openArray | closeArray | comma | colon => exact ⟨_, [], rfl, rfl⟩
  | null | bool | number => cases other
  | string content =>
      obtain ⟨s, rfl⟩ := Option.isSome_iff_exists.mp plain
      exact ⟨'"', _, rfl, rfl⟩

/-- **Tokens.** By induction on the tokens: if they can be written and are apart, they
are those of the text that is written for them. -/
theorem tokens?_chars {ts : List Token} (plain : ∀ t ∈ ts, t.isPlain = true)
    (apart : ts.IsChain Token.Apart) : tokens? (ts.flatMap Token.chars) = some ts := by
  have each : ∀ found, Lexer.finish ⟨found, .between⟩ (ts.flatMap Token.chars) =
      some (found.reverse ++ ts) := by
    induction ts with
    | nil =>
        intro found
        rw [List.append_nil]
        exact Lexer.finish_nil found
    | cons t ts ih =>
        intro found
        rw [List.forall_mem_cons] at plain
        rw [List.isChain_cons] at apart
        have ends : t.EndsBefore (ts.flatMap Token.chars) := by
          intro bare c next
          cases ts with
          | nil => cases next
          | cons u ts =>
              have other := apart.1 u rfl bare
              obtain ⟨d, ds, first, noBare⟩ :=
                u.exists_chars_eq_cons (plain.2 u List.mem_cons_self) other
              rw [List.flatMap_cons, first] at next
              cases next
              exact noBare
        rw [List.flatMap_cons, Lexer.finish_chars plain.1 ends, ih plain.2 apart.2,
          List.reverse_cons, List.append_assoc]
        rfl
  exact each []

end RecordFilter.Json

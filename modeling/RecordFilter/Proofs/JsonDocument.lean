import RecordFilter.Json.Document
import RecordFilter.Proofs.JsonTokens

/-!
# Documents written and read back

A document is written without blanks, token by token, and reading puts it together
again: what is open stays open while the tokens of one value pass, and after them the
value stands in its place.
-/

namespace RecordFilter.Json

/-! ## Writing -/

namespace Document

mutual

/-- The tokens of a document. -/
def tokens : Document → List Token
  | .null => [.null]
  | .bool b => [.bool b]
  | .number natural => [.number natural]
  | .string content => [.string content]
  | .array [] => [.openArray, .closeArray]
  | .array (d :: items) => .openArray :: (d.tokens ++ restTokens items)
  | .object [] => [.openObject, .closeObject]
  | .object ((key, d) :: members) =>
    .openObject :: .string key :: .colon :: (d.tokens ++ restMemberTokens members)

/-- The tokens of an array behind its first item. -/
def restTokens : List Document → List Token
  | [] => [.closeArray]
  | d :: items => .comma :: (d.tokens ++ restTokens items)

/-- The tokens of an object behind its first member. -/
def restMemberTokens : List (Option String × Document) → List Token
  | [] => [.closeObject]
  | (key, d) :: members =>
    .comma :: .string key :: .colon :: (d.tokens ++ restMemberTokens members)

end

/-- The document as a text. -/
def text (d : Document) : String :=
  String.ofList (d.tokens.flatMap Token.chars)

/-- No document begins with the end of an array. -/
theorem exists_tokens_eq_cons (d : Document) :
    ∃ t ts, d.tokens = t :: ts ∧ t ≠ .closeArray := by
  cases d with
  | null | bool | number | string => exact ⟨_, _, by rw [tokens], by simp⟩
  | array items => cases items <;> exact ⟨_, _, by rw [tokens], by simp⟩
  | object members =>
      cases members with
      | nil => exact ⟨_, _, by rw [tokens], by simp⟩
      | cons member members => exact ⟨_, _, by rw [tokens], by simp⟩

end Document

/-! ## Tokens apart -/

/-- A token that is neither word nor number may stand before any other. -/
theorem Token.apart_of_not_bare {t u : Token} (other : t.isBare = false) : t.Apart u := by
  intro bare
  rw [other] at bare
  cases bare

theorem Token.isChain_cons {t : Token} {ts : List Token} (other : t.isBare = false)
    (chain : ts.IsChain Apart) : (t :: ts).IsChain Apart :=
  List.isChain_cons.mpr ⟨fun _ _ => apart_of_not_bare other, chain⟩

theorem Token.isChain_append {t : Token} {ts us : List Token} (first : ts.IsChain Apart)
    (other : t.isBare = false) (second : us.IsChain Apart) (head : us.head? = some t) :
    (ts ++ us).IsChain Apart := by
  refine List.isChain_append.mpr ⟨first, second, ?_⟩
  intro u _ v next _
  rw [head] at next
  cases next
  exact other

namespace Document

theorem exists_head?_restTokens (items : List Document) :
    ∃ t, (restTokens items).head? = some t ∧ t.isBare = false := by
  cases items <;> exact ⟨_, by rw [restTokens]; rfl, rfl⟩

theorem exists_head?_restMemberTokens (members : List (Option String × Document)) :
    ∃ t, (restMemberTokens members).head? = some t ∧ t.isBare = false := by
  cases members <;> exact ⟨_, by rw [restMemberTokens]; rfl, rfl⟩

mutual

/-- In a document something stands between any two words or numbers. -/
theorem isChain_tokens (d : Document) : d.tokens.IsChain Token.Apart := by
  match d with
  | .null | .bool _ | .number _ | .string _ =>
      rw [tokens]
      exact .singleton _
  | .array [] =>
      rw [tokens]
      exact Token.isChain_cons rfl (.singleton _)
  | .array (d :: items) =>
      obtain ⟨t, head, other⟩ := exists_head?_restTokens items
      rw [tokens]
      exact Token.isChain_cons rfl
        (Token.isChain_append (isChain_tokens d) other (isChain_restTokens items) head)
  | .object [] =>
      rw [tokens]
      exact Token.isChain_cons rfl (.singleton _)
  | .object ((key, d) :: members) =>
      obtain ⟨t, head, other⟩ := exists_head?_restMemberTokens members
      rw [tokens]
      exact Token.isChain_cons rfl (Token.isChain_cons rfl (Token.isChain_cons rfl
        (Token.isChain_append (isChain_tokens d) other (isChain_restMemberTokens members) head)))

theorem isChain_restTokens (items : List Document) :
    (restTokens items).IsChain Token.Apart := by
  match items with
  | [] =>
      rw [restTokens]
      exact .singleton _
  | d :: items =>
      obtain ⟨t, head, other⟩ := exists_head?_restTokens items
      rw [restTokens]
      exact Token.isChain_cons rfl
        (Token.isChain_append (isChain_tokens d) other (isChain_restTokens items) head)

theorem isChain_restMemberTokens (members : List (Option String × Document)) :
    (restMemberTokens members).IsChain Token.Apart := by
  match members with
  | [] =>
      rw [restMemberTokens]
      exact .singleton _
  | (key, d) :: members =>
      obtain ⟨t, head, other⟩ := exists_head?_restMemberTokens members
      rw [restMemberTokens]
      exact Token.isChain_cons rfl (Token.isChain_cons rfl (Token.isChain_cons rfl
        (Token.isChain_append (isChain_tokens d) other (isChain_restMemberTokens members) head)))

end

end Document

/-! ## Assembling -/

namespace Assembly

variable {a b : Assembly} {t : Token} {ts us : List Token} {frames : List Frame}

/-- Goes on by a list of tokens. -/
def run (a : Assembly) (ts : List Token) : Option Assembly :=
  ts.foldlM step? a

theorem run_cons (first : a.step? t = some b) : a.run (t :: ts) = b.run ts := by
  unfold run
  rw [List.foldlM_cons, first]
  rfl

theorem run_append (first : a.run ts = some b) : a.run (ts ++ us) = b.run us := by
  unfold run at first ⊢
  rw [List.foldlM_append, first]
  rfl

/-- Where an array may end, it may as well go on. -/
theorem run_valueOrEnd (goesOn : t ≠ .closeArray) :
    run ⟨frames, .valueOrEnd⟩ (t :: ts) = run ⟨frames, .value⟩ (t :: ts) := by
  have same : step? ⟨frames, .valueOrEnd⟩ t = step? ⟨frames, .value⟩ t := by
    cases t with
    | closeArray => exact absurd rfl goesOn
    | openObject | closeObject | openArray | comma | colon | null | bool | number | string => rfl
  unfold run
  rw [List.foldlM_cons, List.foldlM_cons, same]

theorem run_first_item (d : Document) :
    run ⟨.array [] :: frames, .valueOrEnd⟩ d.tokens =
      run ⟨.array [] :: frames, .value⟩ d.tokens := by
  obtain ⟨t, ts, first, goesOn⟩ := d.exists_tokens_eq_cons
  rw [first]
  exact run_valueOrEnd goesOn

mutual

/-- By induction on the document: its tokens put it into its place. -/
theorem run_tokens (frames : List Frame) (d : Document) :
    run ⟨frames, .value⟩ d.tokens = some (place frames d) := by
  match d with
  | .null | .bool _ | .number _ | .string _ | .array [] | .object [] =>
      rw [Document.tokens]
      rfl
  | .array (d :: items) =>
      -- the first item stands where the array could end as well
      have first := run_tokens (.array [] :: frames) d
      rw [← run_first_item] at first
      have all := run_restTokens frames [d] items
      rw [Document.tokens, run_cons rfl, run_append first]
      exact all
  | .object ((key, d) :: members) =>
      have first := run_tokens (.object [] key :: frames) d
      have all := run_restMemberTokens frames none [(key, d)] members
      rw [Document.tokens, run_cons rfl, run_cons rfl, run_cons rfl, run_append first]
      exact all

/-- By induction on the items that an array still lacks. -/
theorem run_restTokens (frames : List Frame) (done items : List Document) :
    run ⟨.array done :: frames, .separator⟩ (Document.restTokens items) =
      some (place frames (.array (done.reverse ++ items))) := by
  match items with
  | [] =>
      rw [Document.restTokens, List.append_nil]
      rfl
  | d :: items =>
      have next := run_tokens (.array done :: frames) d
      have others := run_restTokens frames (d :: done) items
      rw [List.reverse_cons, List.append_assoc] at others
      rw [Document.restTokens, run_cons rfl, run_append next]
      exact others

/-- By induction on the members that an object still lacks. -/
theorem run_restMemberTokens (frames : List Frame) (key : Option String)
    (done members : List (Option String × Document)) :
    run ⟨.object done key :: frames, .separator⟩ (Document.restMemberTokens members) =
      some (place frames (.object (done.reverse ++ members))) := by
  match members with
  | [] =>
      rw [Document.restMemberTokens, List.append_nil]
      rfl
  | (next, d) :: members =>
      have value := run_tokens (.object done next :: frames) d
      have others := run_restMemberTokens frames none ((next, d) :: done) members
      rw [List.reverse_cons, List.append_assoc] at others
      rw [Document.restMemberTokens, run_cons rfl, run_cons rfl, run_cons rfl, run_append value]
      exact others

end

end Assembly

/-- **Documents.** A document whose tokens can be written is read back as it is. -/
theorem Document.parse?_text {d : Document} (plain : ∀ t ∈ d.tokens, t.isPlain = true) :
    parse? d.text = some d := by
  have cut : tokens? d.text.toList = some d.tokens := by
    rw [text, String.toList_ofList]
    exact tokens?_chars plain d.isChain_tokens
  have whole : d.tokens.foldlM Assembly.step? {} = some (Assembly.place [] d) :=
    Assembly.run_tokens [] d
  unfold parse?
  rw [cut, Option.bind_some, whole]
  rfl

end RecordFilter.Json

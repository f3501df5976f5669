import SnippetCheck.Proofs.Reading.Failure
import SnippetCheck.Proofs.Reading.Loops

namespace SnippetCheck.Grammar

/-- Two readings that stop at the same place and succeed or fail alike, although `barrier` stands
behind the tokens of the second. Their faults may differ, but either both show some or neither. -/
structure Outcome.Matches {α : Type} {tokens tokens' : List Token} (barrier : List Token)
    (near : Outcome α tokens) (far : Outcome α tokens') : Prop where
  result : far.result = near.result
  rest : far.rest = near.rest ++ barrier
  silent : far.faults = [] ↔ near.faults = []

/-- For `far`, a barrier behind the tokens is what their end is for `near`. -/
def Reader.Heeds {α : Type} (barrier : List Token) (near far : Reader α) (tokens : List Token) :
    Prop :=
  (near tokens).Matches barrier (far (tokens ++ barrier))

/-- A condition that no `def` satisfies. -/
def Foreign (condition : Token → Bool) : Prop :=
  ∀ token : Token, token.isKeyword "def" = true → condition token = false

section Foreign

/-- Tokens of other kinds than keywords are told from the barrier. -/
theorem foreign_kind {kind : TokenKind} (other : kind ≠ .keyword) : Foreign (·.kind == kind) := by
  intro token keyword
  dsimp only
  rw [Token.kind_of_isKeyword keyword]
  exact beq_false_of_ne other.symm

theorem foreign_is {kind : TokenKind} (other : kind ≠ .keyword) (text : String) :
    Foreign (·.is kind text) := by
  intro token keyword
  have kind := foreign_kind other token keyword
  simp only [Token.is, kind, Bool.false_and]

theorem foreign_symbol (mark : String) : Foreign (·.isSymbol mark) :=
  foreign_is (by decide) mark

theorem foreign_keyword {word : String} (other : "def" ≠ word) : Foreign (·.isKeyword word) :=
  fun _ keyword => Token.not_isKeyword_of_ne keyword other

end Foreign

open Reader

variable {mark : Token} {later : List Token}

section Combinators

variable {α β : Type} {tokens : List Token}

/-- Readings that heed the barrier one behind the other heed it together. -/
theorem Reader.Heeds.bind {barrier : List Token} {near far : Reader α} {next next' : α → Reader β}
    (first : near.Heeds barrier far tokens)
    (second : ∀ a, (near tokens).result = some a →
      (next a).Heeds barrier (next' a) (near tokens).rest) :
    (near >>= next).Heeds barrier (far >>= next') tokens := by
  cases result : (near tokens).result with
  | none =>
    obtain ⟨nearResult, nearRest, nearFaults⟩ := bind_of_none next result
    obtain ⟨farResult, farRest, farFaults⟩ := bind_of_none next' (first.result.trans result)
    exact ⟨by rw [farResult, nearResult], by rw [farRest, nearRest, first.rest],
      by rw [farFaults, nearFaults, first.silent]⟩
  | some a =>
    obtain ⟨nearResult, nearRest, nearFaults⟩ := bind_of_some next result
    obtain ⟨farResult, farRest, farFaults⟩ := bind_of_some next' (first.result.trans result)
    have second := second a result
    rw [Heeds, ← first.rest] at second
    refine ⟨by rw [farResult, nearResult, second.result], by rw [farRest, nearRest, second.rest],
      ?_⟩
    rw [farFaults, nearFaults, List.append_eq_nil_iff, List.append_eq_nil_iff, first.silent,
      second.silent]

theorem Reader.Heeds.of_eq {barrier : List Token} {near near' far far' : Reader α}
    (sameNear : near tokens = near' tokens)
    (sameFar : far (tokens ++ barrier) = far' (tokens ++ barrier))
    (heeds : near'.Heeds barrier far' tokens) : near.Heeds barrier far tokens := by
  rw [Heeds, sameNear, sameFar]
  exact heeds

/-- Both runs take a token, or neither does. -/
theorem Reader.Heeds.shorter_iff {barrier : List Token} {near far : Reader α}
    (heeds : near.Heeds barrier far tokens) :
    (far (tokens ++ barrier)).rest.length < (tokens ++ barrier).length ↔
      (near tokens).rest.length < tokens.length := by
  rw [heeds.rest, List.length_append, List.length_append]
  exact Nat.add_lt_add_iff_right

/-- Two failures are alike if both have stopped before the barrier and say so. -/
theorem Reader.heeds_of_failures {barrier : List Token} {near far : Reader α}
    (nearFails : (near tokens).result = none) (nearFaults : (near tokens).faults ≠ [])
    (farFails : (far (tokens ++ barrier)).result = none)
    (farFaults : (far (tokens ++ barrier)).faults ≠ [])
    (stopped : (far (tokens ++ barrier)).rest = (near tokens).rest ++ barrier) :
    near.Heeds barrier far tokens :=
  ⟨farFails.trans nearFails.symm, stopped, by simp [nearFaults, farFaults]⟩

theorem Reader.heeds_pure (barrier : List Token) (a : α) :
    (pure a : Reader α).Heeds barrier (pure a) tokens :=
  ⟨rfl, rfl, .rfl⟩

/-- Both runs fail here, with a fault each. -/
theorem Reader.heeds_fail (barrier : List Token) (fault fault' : Diagnostic) :
    (fail fault : Reader α).Heeds barrier (fail fault') tokens :=
  heeds_of_failures rfl (by simp [fail]) rfl (by simp [fail]) rfl

theorem Reader.heeds_attempt {barrier : List Token} {near far : Reader α}
    (heeds : near.Heeds barrier far tokens) :
    near.attempt.Heeds barrier far.attempt tokens :=
  ⟨congrArg some heeds.result, heeds.rest, heeds.silent⟩

/-- A condition that the barrier does not meet is not met by the next token where there is none. -/
theorem any_head?_append {condition : Token → Bool} (refused : condition mark = false) :
    (tokens ++ mark :: later).head?.any condition = tokens.head?.any condition := by
  cases tokens with
  | nil => simpa using refused
  | cons => rfl

theorem Reader.heeds_next {condition : Token → Bool} (refused : condition mark = false) :
    (next condition).Heeds (mark :: later) (next condition) tokens :=
  ⟨congrArg some (any_head?_append refused), rfl, .rfl⟩

theorem Reader.heeds_second {condition : Token → Bool} (refused : condition mark = false)
    (token : Token) :
    (second condition).Heeds (mark :: later) (second condition) (token :: tokens) :=
  ⟨congrArg some (any_head?_append refused), rfl, .rfl⟩

theorem Reader.heeds_peek (barrier : List Token) (token : Token) :
    peek.Heeds barrier peek (token :: tokens) :=
  ⟨rfl, rfl, .rfl⟩

theorem Reader.heeds_skip (barrier : List Token) (token : Token) :
    skip.Heeds barrier skip (token :: tokens) :=
  ⟨rfl, rfl, .rfl⟩

theorem Reader.heeds_skip_of_any (barrier : List Token) {condition : Token → Bool}
    (there : tokens.head?.any condition = true) : skip.Heeds barrier skip tokens := by
  cases tokens with
  | nil => simp at there
  | cons token tokens => exact heeds_skip barrier token

theorem Reader.heeds_accept {condition : Token → Bool} (refused : condition mark = false) :
    (accept condition).Heeds (mark :: later) (accept condition) tokens := by
  cases tokens with
  | nil => constructor <;> simp [accept, refused]
  | cons token tokens => by_cases fits : condition token <;> constructor <;> simp [accept, fits]

theorem Reader.heeds_expect {condition : Token → Bool} (expected : String)
    (refused : condition mark = false) :
    (expect expected condition).Heeds (mark :: later) (expect expected condition) tokens := by
  cases tokens with
  | nil => constructor <;> simp [expect, refused]
  | cons token tokens => by_cases fits : condition token <;> constructor <;> simp [expect, fits]

end Combinators

section Lists

variable {α β : Type} {near far : Reader α}

/-- The barrier is no comma, so no item is read behind it. -/
theorem Reader.heeds_behindCommas (noComma : mark.isSymbol "," = false)
    (items : ∀ tokens, near.Heeds (mark :: later) far tokens) (tokens : List Token) :
    Heeds (mark :: later) (behindCommas near) (behindCommas far) tokens := by
  by_cases comma : tokens.head?.any (·.isSymbol ",") = true
  · cases tokens with
    | nil => simp at comma
    | cons token rest =>
      refine .of_eq (behindCommas_step comma) (behindCommas_step comma) ?_
      exact (heeds_skip _ token).bind fun _ _ => (items rest).bind fun first _ =>
        (heeds_behindCommas noComma items _).bind fun others _ => heeds_pure _ _
  · rw [Bool.not_eq_true] at comma
    refine .of_eq (behindCommas_stop comma) (behindCommas_stop ?_) (heeds_pure _ _)
    exact (any_head?_append noComma).trans comma
termination_by tokens.length
decreasing_by exact Nat.lt_succ_of_le (near rest).suffix.length_le

/-- Before a barrier a list asks for an item, but does not get behind the barrier. -/
theorem Reader.commaSeparated_barrier_rest (noComma : mark.isSymbol "," = false)
    (noClosing : mark.isSymbol ")" = false)
    (items : ∀ tokens, near.Heeds (mark :: later) far tokens) :
    (commaSeparated far (mark :: later)).rest = mark :: later := by
  have asks : (next (!·.isSymbol ")") (mark :: later)).result = some true := by
    simp [next, noClosing]
  have list := (items []).bind fun first _ =>
    (heeds_behindCommas noComma items _).bind fun others _ => heeds_pure _ (first :: others)
  refine (bind_of_some _ asks).2.1.trans (list.rest.trans ?_)
  rw [List.suffix_nil.mp (Outcome.suffix _), List.nil_append]

/-- The list of items alone does not heed a barrier: at the end it is empty, before a barrier it
asks for an item. The closing parenthesis that is missing in both cases makes up for it. -/
theorem Reader.heeds_enclosed (noComma : mark.isSymbol "," = false)
    (noClosing : mark.isSymbol ")" = false)
    (items : ∀ tokens, near.Heeds (mark :: later) far tokens) (loud : far.Loud)
    {next next' : List α → Reader β}
    (behind : ∀ found rest, (next found).Heeds (mark :: later) (next' found) rest)
    (tokens : List Token) :
    (commaSeparated near >>= fun found => symbol ")" >>= fun _ => next found).Heeds
      (mark :: later)
      (commaSeparated far >>= fun found => symbol ")" >>= fun _ => next' found) tokens := by
  have closing (found : List α) (rest : List Token) :
      (symbol ")" >>= fun _ => next found).Heeds (mark :: later)
        (symbol ")" >>= fun _ => next' found) rest :=
    (heeds_expect _ noClosing).bind fun _ _ => behind found _
  cases tokens with
  | nil =>
    have stopped := commaSeparated_barrier_rest noComma noClosing items
    cases result : (commaSeparated far (mark :: later)).result with
    | none =>
      obtain ⟨farResult, farRest, farFaults⟩ := bind_of_none _ result
      exact heeds_of_failures rfl nofun farResult
        (farFaults ▸ loud_commaSeparated loud _ result) (farRest.trans stopped)
    | some found =>
      have missing := closing found []
      obtain ⟨farResult, farRest, farFaults⟩ :=
        bind_of_some (fun found => symbol ")" >>= fun _ => next' found) result
      rw [stopped] at farResult farRest farFaults
      refine heeds_of_failures rfl nofun (farResult.trans missing.result) ?_
        (farRest.trans missing.rest)
      exact farFaults ▸ List.append_ne_nil_of_right_ne_nil _ fun silent => by
        cases missing.silent.mp silent
  | cons token tokens =>
    refine Heeds.bind ?_ fun found _ => closing found _
    refine Heeds.bind ⟨rfl, rfl, .rfl⟩ fun more _ => ?_
    split
    · exact (items _).bind fun first _ =>
        (heeds_behindCommas noComma items _).bind fun others _ => heeds_pure _ _
    · exact heeds_pure _ _

end Lists

end SnippetCheck.Grammar

import Mathlib.Data.List.Forall2
import SnippetCheck.Proofs.Reading.Loops

namespace SnippetCheck.Grammar

open Reader

/-- All that a fault of reading can ask for. -/
def expectations : List String :=
  ["function name", "parameter name", "expression", "'('", "')'", "':'"]

/-- Brackets that were opened by symbols which stand for one another. -/
def OpenedBy (tokens : Token → Token → Prop) (opened opened' : OpenBracket) : Prop :=
  ∃ token token', tokens token token' ∧ token.kind = .symbol ∧
    opened = ⟨token.text, token.line⟩ ∧ opened' = ⟨token'.text, token'.line⟩

/-- A way to compare two programs token by token: which tokens stand for one another, and which
faults may then be answers to one another. The lines of tokens need not have to do with each other,
but what the grammar looks at has to be the same. -/
structure Comparison where
  tokens : Token → Token → Prop
  faults : Diagnostic → Diagnostic → Prop
  kind {token token' : Token} : tokens token token' → token.kind = token'.kind
  text {token token' : Token} : tokens token token' → token.text = token'.text
  expectedToken {token token' : Token} {expected : String} : expected ∈ expectations →
    tokens token token' → faults (.expectedToken expected token.line token.text)
      (.expectedToken expected token'.line token'.text)
  expectedAtEnd {expected : String} : expected ∈ expectations →
    faults (.expectedAtEnd expected) (.expectedAtEnd expected)
  unexpectedToken {token token' : Token} : token.kind ≠ .string → tokens token token' →
    faults (.unexpectedToken token.text token.line) (.unexpectedToken token'.text token'.line)
  unmatchedCloser {token token' : Token} : token.kind = .symbol → tokens token token' →
    faults (.unmatchedCloser token.text token.line) (.unmatchedCloser token'.text token'.line)
  mismatchedBracket {token token' : Token} {opener opener' : OpenBracket} :
    token.kind = .symbol → tokens token token' → OpenedBy tokens opener opener' →
    faults (.mismatchedBracket token.text token.line opener)
      (.mismatchedBracket token'.text token'.line opener')
  unclosedBrackets {outermost outermost' : OpenBracket} {inner inner' : List OpenBracket} :
    List.Forall₂ (OpenedBy tokens) (outermost :: inner) (outermost' :: inner') →
    faults (.unclosedBrackets outermost inner) (.unclosedBrackets outermost' inner')
  missingFunctionName (line line' : UInt32) :
    faults (.missingFunctionName line) (.missingFunctionName line')
  missingParameterList (line line' : UInt32) :
    faults (.missingParameterList line) (.missingParameterList line')
  missingFunctionColon (line line' : UInt32) :
    faults (.missingFunctionColon line) (.missingFunctionColon line')
  nestingTooDeep (line line' : UInt32) : faults (.nestingTooDeep line) (.nestingTooDeep line')
  noTokens : faults .noTokens .noTokens

/-- Readings that come to the same: their results stand for one another, the tokens left do, and
the faults answer one another one by one. -/
structure Outcome.Agrees {α : Type} {tokens tokens' : List Token} (compare : Comparison)
    (results : α → α → Prop) (outcome : Outcome α tokens) (outcome' : Outcome α tokens') :
    Prop where
  result : Option.Rel results outcome.result outcome'.result
  rest : List.Forall₂ compare.tokens outcome.rest outcome'.rest
  faults : List.Forall₂ compare.faults outcome.faults outcome'.faults

/-- Readers whose readings agree wherever the tokens do. -/
def Reader.Agrees {α : Type} (compare : Comparison) (results : α → α → Prop)
    (reader reader' : Reader α) : Prop :=
  ∀ ⦃tokens tokens'⦄, List.Forall₂ compare.tokens tokens tokens' →
    (reader tokens).Agrees compare results (reader' tokens')

variable {compare : Comparison} {token token' : Token} {tokens tokens' : List Token}

section Tokens

theorem Comparison.is_eq (same : compare.tokens token token') (kind : TokenKind) (text : String) :
    token.is kind text = token'.is kind text := by
  rw [Token.is, Token.is, compare.kind same, compare.text same]

theorem Comparison.isOperatorOf_eq (same : compare.tokens token token')
    (operators : List String) : isOperatorOf operators token = isOperatorOf operators token' := by
  rw [isOperatorOf, isOperatorOf, compare.kind same, compare.text same]

/-- A condition that makes no difference between tokens which stand for one another. -/
def Comparison.Respects (compare : Comparison) (condition : Token → Bool) : Prop :=
  ∀ ⦃token token'⦄, compare.tokens token token' → condition token = condition token'

/-- A condition that tokens share is met by both heads or by neither. -/
theorem Comparison.Respects.any_head? {condition : Token → Bool}
    (respects : compare.Respects condition) (same : List.Forall₂ compare.tokens tokens tokens') :
    tokens.head?.any condition = tokens'.head?.any condition := by
  cases same with
  | nil => rfl
  | cons first _ => exact respects first

theorem respects_symbol (mark : String) : compare.Respects (·.isSymbol mark) :=
  fun _ _ same => compare.is_eq same .symbol mark

theorem respects_keyword (word : String) : compare.Respects (·.isKeyword word) :=
  fun _ _ same => compare.is_eq same .keyword word

theorem respects_kind (kind : TokenKind) : compare.Respects (·.kind == kind) :=
  fun _ _ same => congrArg (· == kind) (compare.kind same)

end Tokens

section Combinators

variable {α β : Type} {results : α → α → Prop} {results' : β → β → Prop}
  {reader reader' : Reader α} {next next' : α → Reader β}

/-- Readings that agree may be followed by readings that agree for all results they can have. -/
theorem Outcome.Agrees.bind
    (first : (reader tokens).Agrees compare results (reader' tokens'))
    (second : ∀ a a', (reader tokens).result = some a → results a a' →
      (next a (reader tokens).rest).Agrees compare results' (next' a' (reader' tokens').rest)) :
    ((reader >>= next) tokens).Agrees compare results' ((reader' >>= next') tokens') := by
  obtain ⟨result, rest, faults⟩ := first
  generalize found : (reader tokens).result = found₁ at result
  generalize found' : (reader' tokens').result = found₂ at result
  cases result with
  | none =>
    obtain ⟨atResult, atRest, atFaults⟩ := bind_of_none next found
    obtain ⟨atResult', atRest', atFaults'⟩ := bind_of_none next' found'
    constructor
    · rw [atResult, atResult']
      exact .none
    · rwa [atRest, atRest']
    · rwa [atFaults, atFaults']
  | @some a a' same =>
    obtain ⟨atResult, atRest, atFaults⟩ := bind_of_some next found
    obtain ⟨atResult', atRest', atFaults'⟩ := bind_of_some next' found'
    have second := second a a' found same
    constructor
    · rw [atResult, atResult']
      exact second.result
    · rw [atRest, atRest']
      exact second.rest
    · rw [atFaults, atFaults']
      exact List.rel_append faults second.faults

/-- Readers that agree may be followed by readers that agree for all results that answer one
another. -/
theorem Reader.Agrees.bind (first : reader.Agrees compare results reader')
    (second : ∀ a a', results a a' → (next a).Agrees compare results' (next' a')) :
    (reader >>= next).Agrees compare results' (reader' >>= next') :=
  fun _ _ same => Outcome.Agrees.bind (first same) fun a a' _ agree =>
    second a a' agree (first same).rest

/-- Both runs take the same branch of a decision. -/
theorem Reader.Agrees.ite {condition : Prop} [Decidable condition] {other other' : Reader α}
    (holds : condition → reader.Agrees compare results reader')
    (fails : ¬condition → other.Agrees compare results other') :
    (if condition then reader else other).Agrees compare results
      (if condition then reader' else other') := by
  split
  · exact holds ‹_›
  · exact fails ‹_›

theorem agrees_pure {a a' : α} (agree : results a a') :
    (pure a : Reader α).Agrees compare results (pure a') :=
  fun _ _ same => ⟨.some agree, same, .nil⟩

theorem agrees_fail {fault fault' : Diagnostic} (answer : compare.faults fault fault') :
    (fail fault : Reader α).Agrees compare results (fail fault') :=
  fun _ _ same => ⟨.none, same, .cons answer .nil⟩

/-- Both runs are forgiven their failure, or neither needs to be. -/
theorem agrees_attempt (agree : reader.Agrees compare results reader') :
    reader.attempt.Agrees compare (Option.Rel results) reader'.attempt :=
  fun _ _ same => ⟨.some (agree same).result, (agree same).rest, (agree same).faults⟩

theorem rel_head? (same : List.Forall₂ compare.tokens tokens tokens') :
    Option.Rel compare.tokens tokens.head? tokens'.head? := by
  cases same with
  | nil => exact .none
  | cons first _ => exact .some first

theorem rel_tail (same : List.Forall₂ compare.tokens tokens tokens') :
    List.Forall₂ compare.tokens tokens.tail tokens'.tail := by
  cases same with
  | nil => exact .nil
  | cons _ others => exact others

/-- Both runs see a token, or neither does. -/
theorem agrees_peek : peek.Agrees compare (Option.Rel compare.tokens) peek :=
  fun _ _ same => ⟨.some (rel_head? same), same, .nil⟩

theorem agrees_skip : skip.Agrees compare Eq skip :=
  fun _ _ same => ⟨.some rfl, rel_tail same, .nil⟩

section Conditions

variable {condition : Token → Bool} (respects : compare.Respects condition)

include respects

theorem agrees_next : (Reader.next condition).Agrees compare Eq (Reader.next condition) :=
  fun _ _ same => ⟨.some (respects.any_head? same), same, .nil⟩

/-- A decision by the next token is the same in both runs. -/
theorem agrees_ifNext {other other' : Reader α} (holds : reader.Agrees compare results reader')
    (fails : other.Agrees compare results other') :
    (Reader.next condition >>= fun there => if there then reader else other).Agrees compare results
      (Reader.next condition >>= fun there => if there then reader' else other') := by
  refine .bind (agrees_next respects) fun there _ agree => ?_
  subst agree
  exact .ite (fun _ => holds) fun _ => fails

theorem agrees_second : (second condition).Agrees compare Eq (second condition) :=
  fun _ _ same => ⟨.some (respects.any_head? (rel_tail same)), same, .nil⟩

theorem agrees_accept :
    (accept condition).Agrees compare (Option.Rel compare.tokens) (accept condition) := by
  intro tokens tokens' same
  cases same with
  | nil => exact ⟨.some .none, .nil, .nil⟩
  | @cons token token' rest rest' first others =>
    rw [accept, accept, ← respects first]
    split
    · exact ⟨.some (.some first), others, .nil⟩
    · exact ⟨.some .none, .cons first others, .nil⟩

/-- Both runs find the token or miss it, with the same text asked for. -/
theorem agrees_expect {expected : String} (asked : expected ∈ expectations) :
    (expect expected condition).Agrees compare compare.tokens (expect expected condition) := by
  intro tokens tokens' same
  cases same with
  | nil => exact ⟨.none, .nil, .cons (compare.expectedAtEnd asked) .nil⟩
  | @cons token token' rest rest' first others =>
    rw [expect, expect, ← respects first]
    split
    · exact ⟨.some first, others, .nil⟩
    · exact ⟨.none, .cons first others, .cons (compare.expectedToken asked first) .nil⟩

end Conditions

theorem agrees_symbol {mark : String} (asked : s!"'{mark}'" ∈ expectations) :
    (symbol mark).Agrees compare compare.tokens (symbol mark) :=
  agrees_expect (respects_symbol mark) asked

theorem agrees_name {what : String} (asked : what ∈ expectations) :
    (name what).Agrees compare compare.tokens (name what) :=
  agrees_expect (respects_kind .identifier) asked

/-- Both runs read as many items. -/
theorem agrees_behindCommas (items : reader.Agrees compare results reader') :
    Reader.Agrees compare (List.Forall₂ results) (behindCommas reader) (behindCommas reader') := by
  intro tokens tokens' same
  have commas := (respects_symbol ",").any_head? same
  by_cases comma : tokens.head?.any (·.isSymbol ",") = true
  · cases same with
    | nil => cases comma
    | @cons token token' rest rest' first others =>
      rw [behindCommas_step comma, behindCommas_step (commas.symm.trans comma)]
      refine .bind (agrees_skip (.cons first others)) fun _ _ _ _ => ?_
      refine .bind (items others) fun _ _ _ agree => ?_
      have more := agrees_behindCommas items (items others).rest
      exact .bind more fun _ _ _ agree' => agrees_pure (.cons agree agree') more.rest
  · rw [Bool.not_eq_true] at comma
    rw [behindCommas_stop comma, behindCommas_stop (commas.symm.trans comma)]
    exact agrees_pure .nil same
termination_by tokens => tokens.length
decreasing_by exact Nat.lt_succ_of_le (reader rest).suffix.length_le

theorem agrees_commaSeparated (items : reader.Agrees compare results reader') :
    (commaSeparated reader).Agrees compare (List.Forall₂ results) (commaSeparated reader') := by
  have respects : compare.Respects (!·.isSymbol ")") :=
    fun _ _ same => congrArg not (respects_symbol ")" same)
  refine agrees_ifNext respects ?_ (agrees_pure .nil)
  exact .bind items fun first first' agree => .bind (agrees_behindCommas items)
    fun others others' agree' => agrees_pure (.cons agree agree')

end Combinators

end SnippetCheck.Grammar

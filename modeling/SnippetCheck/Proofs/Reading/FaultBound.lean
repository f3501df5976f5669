import SnippetCheck.Proofs.Language.Signatures
import SnippetCheck.Proofs.Reading.Failure

namespace SnippetCheck

/-- Matching the brackets ends with the first fault, or with one for all that are left open. -/
theorem Brackets.length_check_le (tokens : List Token) : (check tokens).length ≤ 1 := by
  rw [check]
  split
  · exact Nat.le_refl 1
  · rw [leftOpen]
    split
    · exact Nat.zero_le 1
    · exact Nat.le_refl 1

/-- Every `def` has one fault of its signature at most. -/
theorem Signatures.length_check_le (tokens : List Token) :
    (check tokens).length ≤ tokens.countP (·.isKeyword "def") := by
  simpa using length_add_length_check_le (List.nil_sublist (sites tokens)) nofun

namespace Grammar

open Reader

section Costs

variable {α β : Type}

/-- What a reading has cost: one for each fault, less one for each token that it has taken. -/
def Outcome.cost {tokens : List Token} (outcome : Outcome α tokens) : Int :=
  outcome.faults.length + outcome.rest.length - tokens.length

/-- The cost of a reading has these bounds, one for a success and one for a failure. -/
structure Outcome.Costs {tokens : List Token} (outcome : Outcome α tokens)
    (success failure : Int) : Prop where
  success : ∀ a, outcome.result = some a → outcome.cost ≤ success
  failure : outcome.result = none → outcome.cost ≤ failure

/-- The reader keeps to these bounds wherever it begins. -/
def Reader.Costs (reader : Reader α) (success failure : Int) : Prop :=
  ∀ tokens, (reader tokens).Costs success failure

variable {success failure success' failure' : Int} {tokens : List Token}

theorem Outcome.Costs.mono {outcome : Outcome α tokens} (costs : outcome.Costs success failure)
    (more : success ≤ success') (more' : failure ≤ failure') :
    outcome.Costs success' failure' :=
  ⟨fun a found => Int.le_trans (costs.success a found) more,
    fun failed => Int.le_trans (costs.failure failed) more'⟩

theorem Reader.Costs.mono {reader : Reader α} (costs : reader.Costs success failure)
    (more : success ≤ success') (more' : failure ≤ failure') : reader.Costs success' failure' :=
  fun tokens => (costs tokens).mono more more'

/-- Readings in a row add up what they cost. -/
theorem Outcome.Costs.bind {reader : Reader α} {next : α → Reader β}
    (first : (reader tokens).Costs success failure)
    (second : ∀ a, (next a).Costs success' failure') :
    ((reader >>= next) tokens).Costs (success + success') (max failure (success + failure')) := by
  cases result : (reader tokens).result with
  | none =>
    obtain ⟨sameResult, sameRest, sameFaults⟩ := bind_of_none next result
    constructor
    · intro b found
      rw [sameResult] at found
      cases found
    · intro _
      have bound := first.failure result
      rw [cost, sameRest, sameFaults, ← cost]
      omega
  | some a =>
    obtain ⟨sameResult, sameRest, sameFaults⟩ := bind_of_some next result
    have bound := first.success a result
    have sum : ((reader >>= next) tokens).cost =
        (reader tokens).cost + (next a (reader tokens).rest).cost := by
      simp only [cost, sameRest, sameFaults, List.length_append]
      omega
    constructor
    · intro b found
      have bound' := (second a _).success b (sameResult ▸ found)
      omega
    · intro failed
      have bound' := (second a _).failure (sameResult ▸ failed)
      omega

/-- Costs of readings one behind the other add up, and a failure costs what led to it. -/
theorem Reader.Costs.bind {reader : Reader α} {next : α → Reader β}
    (first : reader.Costs success failure) (second : ∀ a, (next a).Costs success' failure') :
    (reader >>= next).Costs (success + success') (max failure (success + failure')) :=
  fun tokens => (first tokens).bind second

/-- Where a success takes a token, a reading that stops at its first fault gains by it. -/
theorem Reader.Strict.costs {reader : Reader α} (strict : reader.Strict)
    (taking : ∀ tokens a, (reader tokens).result = some a →
      (reader tokens).rest.length < tokens.length) : reader.Costs (-1) 1 := by
  intro tokens
  constructor
  · intro a found
    have shorter := taking tokens a found
    rw [Outcome.cost, ((strict tokens).of_some found).silent rfl, List.length_nil]
    omega
  · intro _
    have single := (strict tokens).single
    have shorter := (reader tokens).suffix.length_le
    rw [Outcome.cost]
    omega

theorem costs_pure (a : α) : (pure a : Reader α).Costs 0 0 :=
  fun tokens => by constructor <;> simp [Outcome.cost, pure]

theorem costs_skip : skip.Costs 0 0 :=
  fun tokens => by
    constructor <;> simp only [Outcome.cost, skip, List.length_nil, List.length_tail] <;> omega

/-- A token that is passed over is gained, if there is one. -/
theorem costs_skip_cons (token : Token) (rest : List Token) :
    (skip (token :: rest)).Costs (-1) (-1) := by
  constructor <;> simp only [Outcome.cost, skip, List.length_nil, List.tail_cons,
    List.length_cons] <;> omega

/-- A token that is taken is left over, and one that is missed is owed. -/
theorem costs_expect (expected : String) (condition : Token → Bool) :
    (expect expected condition).Costs (-1) 1 := by
  refine (strict_expect expected condition).costs fun tokens token found => ?_
  have taken := congrArg List.length (yields_expect.mp (yields_of_result found)).1
  rw [List.length_cons] at taken
  omega

/-- An attempt succeeds with whatever it has cost to fail. -/
theorem costs_attempt {reader : Reader α} (costs : reader.Costs success failure) :
    reader.attempt.Costs (max success failure) 0 := by
  intro tokens
  refine ⟨fun _ _ => ?_, nofun⟩
  change (reader tokens).cost ≤ _
  cases result : (reader tokens).result with
  | none =>
    have bound := (costs tokens).failure result
    omega
  | some a =>
    have bound := (costs tokens).success a result
    omega

/-- To look at the next token is free, so that the dearer branch bounds both. -/
theorem costs_branch {condition : Token → Bool} {yes no : Reader α}
    (first : yes.Costs success failure) (second : no.Costs success' failure') :
    (next condition >>= fun fits => if fits then yes else no).Costs (max success success')
      (max failure failure') := by
  intro tokens
  rw [next_bind]
  split
  · exact (first tokens).mono (by omega) (by omega)
  · exact (second tokens).mono (by omega) (by omega)

/-- Every item behind a comma is paid for by the comma. -/
theorem costs_behindCommas {item : Reader α} (items : item.Costs 1 1) :
    Reader.Costs (behindCommas item) 0 0 := by
  intro tokens
  fun_induction behindCommas item tokens with
  | case1 => exact costs_pure [] []
  | case2 token rest comma first suffix failed =>
    have bound : first.cost ≤ 1 := (items rest).failure failed
    constructor
    · intro a found
      cases found
    · intro _
      simp only [Outcome.cost, List.length_cons] at bound ⊢
      omega
  | case3 token rest comma first suffix a found others ih =>
    have bound : first.cost ≤ 1 := (items rest).success a found
    have later : others.cost ≤ 0 := by
      cases result : others.result with
      | none => exact ih.failure result
      | some found => exact ih.success found result
    constructor <;> intros <;>
      simp only [Outcome.cost, List.length_cons, List.length_append] at bound later ⊢ <;> omega
  | case4 token rest => exact costs_pure [] (token :: rest)

/-- A list owes no more than one of its items, for the commas pay for the others. -/
theorem costs_commaSeparated {item : Reader α} (items : item.Costs 1 1) :
    (commaSeparated item).Costs 1 1 :=
  (costs_branch (items.bind fun _ => (costs_behindCommas items).bind fun _ => costs_pure _)
    (costs_pure [])).mono (by decide) (by decide)

end Costs

section Statements

variable {inner inside : Reader Node} {tokens : List Token} {token : Token}

/-- An expression that is read leaves a token over, and one that fails owes one for its fault. -/
theorem expression_costs (lastLine : UInt32) (free : Nat) :
    Reader.Costs (expression lastLine free) (-1) 1 := by
  refine (expression_strict lastLine free).costs fun tokens node found => ?_
  have reads := expression_realizes lastLine free (yields_of_result found)
  exact reads.rest_length.2 rfl

/-- A body has at most one fault more than it takes tokens, for it is broken off at most once. -/
theorem block_costs (costs : inner.Costs (-1) 1) (stop : Token → Bool) :
    Reader.Costs (block stop inner) 1 1 := by
  have bounded (tokens : List Token) : (block stop inner tokens).cost ≤ 1 := by
    fun_induction block stop inner tokens with
    | case1 => simp [Outcome.cost]
    | case2 => simp [Outcome.cost]
    | case3 token rest goesOn first failed => exact (costs (token :: rest)).failure failed
    | case4 token rest goesOn first node found shorter others ih =>
      have bound : first.cost ≤ -1 := (costs (token :: rest)).success node found
      have bound' : others.cost ≤ 1 := ih
      simp only [Outcome.cost, List.length_append] at bound bound' ⊢
      omega
    | case5 token rest goesOn first node found longer =>
      have bound : first.cost ≤ -1 := (costs (token :: rest)).success node found
      exact Int.le_trans bound (by decide)
  exact fun tokens => ⟨fun _ _ => bounded tokens, fun _ => bounded tokens⟩

/-- The `def` pays for the fault of a definition that fails. -/
theorem functionDef_costs (costs : inner.Costs (-1) 1) (rest : List Token) :
    (functionDef inner (token :: rest)).Costs (-1) 0 := by
  have parameter : (Reader.name "parameter name").attempt.Costs 1 1 :=
    (costs_attempt (costs_expect _ _)).mono (by decide) (by decide)
  have whole : (functionDef inner (token :: rest)).Costs _ _ :=
    (costs_skip_cons token rest).bind fun _ => (costs_expect _ _).bind fun _ =>
      (costs_expect _ _).bind fun _ => (costs_commaSeparated parameter).bind fun _ =>
        (costs_expect _ _).bind fun _ => (costs_expect _ _).bind fun _ =>
          (block_costs costs _).bind fun _ => costs_pure _
  exact whole.mono (by decide) (by decide)

theorem ifStatement_costs (costs : inner.Costs (-1) 1) (conditions : inside.Costs (-1) 1)
    (rest : List Token) : (ifStatement inner inside token (token :: rest)).Costs (-1) 0 := by
  have whole : (ifStatement inner inside token (token :: rest)).Costs _ _ :=
    (costs_skip_cons token rest).bind fun _ => conditions.bind fun _ =>
      (costs_expect _ _).bind fun _ => (block_costs costs _).bind fun _ =>
        costs_branch
          (costs_skip.bind fun _ => (costs_expect _ _).bind fun _ =>
            (block_costs costs _).bind fun _ => costs_pure _)
          (costs_pure _)
  exact whole.mono (by decide) (by decide)

theorem returnStatement_costs (values : inside.Costs (-1) 1) (rest : List Token) :
    (returnStatement inside token (token :: rest)).Costs (-1) 0 := by
  have whole : (returnStatement inside token (token :: rest)).Costs _ _ :=
    (costs_skip_cons token rest).bind fun _ =>
      costs_branch (values.bind fun _ => costs_pure _) (costs_pure _)
  exact whole.mono (by decide) (by decide)

theorem assignment_costs (values : inside.Costs (-1) 1) (rest : List Token) :
    (assignment inside token (token :: rest)).Costs (-1) 0 := by
  have whole : (assignment inside token (token :: rest)).Costs _ _ :=
    (costs_skip_cons token rest).bind fun _ => costs_skip.bind fun _ => values.bind fun _ =>
      costs_pure _
  exact whole.mono (by decide) (by decide)

/-- A success leaves a token over. A failure has no more faults than it has taken tokens, save that
it has one where it has taken none. -/
structure Outcome.Thrifty (outcome : Outcome Node tokens) : Prop where
  success : ∀ node, outcome.result = some node → outcome.cost ≤ -1
  bound : outcome.faults.length + outcome.rest.length ≤ max tokens.length (outcome.rest.length + 1)

/-- What costs nothing when it fails is thrifty. -/
theorem Outcome.Costs.thrifty {outcome : Outcome Node tokens} (costs : outcome.Costs (-1) 0) :
    outcome.Thrifty := by
  refine ⟨costs.success, ?_⟩
  have bound : outcome.cost ≤ 0 := by
    cases result : outcome.result with
    | none => exact costs.failure result
    | some node => exact Int.le_trans (costs.success node result) (by decide)
  rw [cost] at bound
  omega

/-- Whether a token is taken or not, an expression has but one fault to show for a failure. -/
theorem expression_thrifty (lastLine : UInt32) (free : Nat) (tokens : List Token) :
    (expression lastLine free tokens).Thrifty := by
  refine ⟨(expression_costs lastLine free tokens).success, ?_⟩
  have single := (expression_strict lastLine free tokens).single
  omega

theorem statementOf_thrifty (costs : inner.Costs (-1) 1) (expressions : inside.Costs (-1) 1)
    (thrifty : ∀ tokens, (inside tokens).Thrifty) (tokens : List Token) :
    (statementOf inner inside tokens).Thrifty := by
  cases tokens with
  | nil => exact thrifty []
  | cons token rest =>
    rw [statementOf, peek_bind]
    dsimp only [List.head?_cons]
    split
    · exact (functionDef_costs costs rest).thrifty
    split
    · exact (ifStatement_costs costs expressions rest).thrifty
    split
    · exact (returnStatement_costs expressions rest).thrifty
    rw [second_bind]
    split
    · exact (assignment_costs expressions rest).thrifty
    · exact thrifty _

/-- At every depth a statement pays for its faults with the tokens that it takes. -/
theorem statement_thrifty (lastLine : UInt32) (free : Nat) (tokens : List Token) :
    (statement lastLine free tokens).Thrifty := by
  induction free generalizing tokens with
  | zero => exact expression_thrifty lastLine 0 tokens
  | succ free ih =>
    refine statementOf_thrifty (fun tokens => ⟨(ih tokens).success, fun _ => ?_⟩)
      (expression_costs lastLine free) (expression_thrifty lastLine free) tokens
    have bound := (ih tokens).bound
    have shorter := (statement lastLine free tokens).suffix.length_le
    rw [Outcome.cost]
    omega

end Statements

/-- One round in reading a program has no more faults than it leaves tokens behind, the one among
them that is passed over where none is taken. -/
theorem Outcome.Thrifty.round {reader : Reader Node} {token : Token} {rest : List Token}
    (thrifty : (reader (token :: rest)).Thrifty) :
    (reader (token :: rest)).faults.length + (resumption reader token rest).length ≤
      (token :: rest).length := by
  have bound := thrifty.bound
  have shorter := (reader (token :: rest)).suffix.length_le
  rw [resumption]
  split
  · omega
  · rw [List.length_cons] at *
    omega

/-- Over a whole program every fault is paid for by a token of its own. -/
theorem length_statements_faults_le {reader : Reader Node}
    (thrifty : ∀ tokens, (reader tokens).Thrifty) (tokens : List Token) :
    (statements reader tokens).2.length ≤ tokens.length := by
  cases tokens with
  | nil => simp [statements_nil]
  | cons token rest =>
    have first := (thrifty (token :: rest)).round
    have others := length_statements_faults_le thrifty (resumption reader token rest)
    rw [statements_cons, List.length_append]
    omega
termination_by tokens.length
decreasing_by exact Nat.lt_succ_of_le (resumption_suffix _ token rest).length_le

/-- The faults of a program are bounded by its tokens, however it is nested: one for the brackets,
one for each `def`, and one for each token, although a token at which a statement fails is read
again in every body around it. -/
theorem length_parse_faults_le (tokens : List Token) :
    (parse tokens).2.length ≤
      (significantTokens tokens).length +
        (significantTokens tokens).countP (·.isKeyword "def") + 1 := by
  rw [parse]
  cases significant : significantTokens tokens with
  | nil => exact Nat.le_refl 1
  | cons token rest =>
    have brackets := Brackets.length_check_le (token :: rest)
    have signatures := Signatures.length_check_le (token :: rest)
    have reading : (descend (token :: rest)).2.length ≤ (token :: rest).length :=
      length_statements_faults_le (statement_thrifty _ maxNestingDepth) _
    simp only [structuralFaults, List.length_append]
    omega

example : (parse (tokenize ") def")).2.length = 2 + 1 + 1 := by
  decide +kernel

end Grammar
end SnippetCheck

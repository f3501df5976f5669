import SnippetCheck.Proofs.Language.Acceptance
import SnippetCheck.Proofs.Reading.Barrier

namespace SnippetCheck.Grammar

open Reader

variable {mark : Token} {later : List Token}

/-- A token that stands in no expression: none begins with it, and it neither carries on nor
closes anything. -/
structure OutsideExpressions (token : Token) : Prop where
  not_start : token.kind ≠ .number ∧ token.kind ≠ .string ∧ token.kind ≠ .identifier ∧
    token.isKeyword "print" = false ∧ token.isSymbol "(" = false
  not_operator : token.kind ≠ .operator
  not_comma : token.isSymbol "," = false
  not_closing : token.isSymbol ")" = false

theorem OutsideExpressions.not_opening {token : Token} (outside : OutsideExpressions token) :
    token.isSymbol "(" = false :=
  outside.not_start.2.2.2.2

theorem OutsideExpressions.not_operatorOf {token : Token} (outside : OutsideExpressions token)
    (operators : List String) : isOperatorOf operators token = false := by
  simp [isOperatorOf, outside.not_operator]

/-- A `def` stands in no expression. -/
theorem outside_of_def {token : Token} (isDef : token.isKeyword "def" = true) :
    OutsideExpressions token := by
  obtain ⟨kind, text⟩ := Token.is_iff.mp isDef
  constructor <;> simp [Token.isKeyword, Token.isSymbol, Token.is, kind, text]

/-- A colon stands in no expression. -/
theorem outside_of_colon {token : Token} (isColon : token.isSymbol ":" = true) :
    OutsideExpressions token := by
  obtain ⟨kind, text⟩ := Token.is_iff.mp isColon
  constructor <;> simp [Token.isKeyword, Token.isSymbol, Token.is, kind, text]

/-- Both runs refuse the level, each with the line that it knows. -/
theorem heeds_tooDeep (barrier : List Token) (nearLine farLine : UInt32) (tokens : List Token) :
    (tooDeep nearLine).Heeds barrier (tooDeep farLine) tokens :=
  ⟨rfl, rfl, by simp [tooDeep, fail]⟩

section Expressions

variable {near far : Reader Node} {free : Nat} (outside : OutsideExpressions mark)

include outside

/-- The loop over a chain does not go past the barrier, which is no operator. -/
theorem heeds_chainFrom (operators : List String)
    (operands : ∀ tokens, near.Heeds (mark :: later) far tokens) (left : Node)
    (height : Option Nat) (tokens : List Token) :
    Heeds (mark :: later) (chainFrom free operators near left height)
      (chainFrom free operators far left height) tokens := by
  by_cases isSign : tokens.head?.any (isOperatorOf operators) = true
  · cases tokens with
    | nil => simp at isSign
    | cons sign rest =>
      refine .of_eq (chainFrom_step isSign) (chainFrom_step isSign) ?_
      refine (heeds_skip _ sign).bind fun _ _ => (operands rest).bind fun right _ => ?_
      split
      · exact heeds_fail _ _ _
      · exact heeds_chainFrom operators operands _ _ _
  · rw [Bool.not_eq_true] at isSign
    refine .of_eq (chainFrom_stop isSign) (chainFrom_stop ?_) (heeds_pure _ _)
    exact (any_head?_append (outside.not_operatorOf operators)).trans isSign
termination_by tokens.length
decreasing_by exact Nat.lt_succ_of_le (near rest).suffix.length_le

theorem heeds_chain (operators : List String)
    (operands : ∀ tokens, near.Heeds (mark :: later) far tokens) (tokens : List Token) :
    (chain free operators near).Heeds (mark :: later) (chain free operators far) tokens :=
  (operands tokens).bind fun first _ => heeds_chainFrom outside operators operands first none _

/-- The arguments of a call end before the barrier in both runs, or neither finds the parenthesis.
-/
theorem heeds_call (inside : ∀ tokens, near.Heeds (mark :: later) far tokens)
    (loud : far.Loud) (callee opening : Token) (tokens : List Token) :
    (call near callee).Heeds (mark :: later) (call far callee) (opening :: tokens) :=
  (heeds_skip _ opening).bind fun _ _ =>
    heeds_enclosed outside.not_comma outside.not_closing inside loud (fun _ _ => heeds_pure _ _)
      tokens

/-- No factor begins at the barrier. -/
theorem factor_of_outside :
    factor far (mark :: later) =
      Reader.fail (.unexpectedToken mark.text mark.line) (mark :: later) := by
  obtain ⟨noNumber, noString, noName, noPrint, noOpening⟩ := outside.not_start
  simp [factor, bind, peek, second, noNumber, noString, noName, noPrint, noOpening, fail]

/-- Where the tokens end, the run that stops there and the run at the barrier have a fault each,
though not the same. -/
theorem heeds_factor (inside : ∀ tokens, near.Heeds (mark :: later) far tokens)
    (loud : far.Loud) (tokens : List Token) :
    (factor near).Heeds (mark :: later) (factor far) tokens := by
  cases tokens with
  | nil =>
    rw [Heeds, List.nil_append, factor_of_outside outside]
    exact ⟨rfl, rfl, by simp [fail, factor, bind, peek]⟩
  | cons token tokens =>
    refine (heeds_peek _ token).bind fun next found => ?_
    obtain rfl := Option.some.inj found
    dsimp only [List.head?_cons]
    split
    · exact (heeds_skip _ token).bind fun _ _ => heeds_pure _ _
    split
    · exact (heeds_skip _ token).bind fun _ _ => heeds_pure _ _
    split
    · refine (heeds_skip _ token).bind fun _ _ =>
        (heeds_next outside.not_opening).bind fun opens found' => ?_
      split
      · next isOpening =>
        obtain rfl : tokens.head?.any (·.isSymbol "(") = opens := Option.some.inj found'
        cases tokens with
        | nil => simp at isOpening
        | cons opening tokens => exact heeds_call outside inside loud token opening tokens
      · exact heeds_pure _ _
    refine (heeds_second outside.not_opening token).bind fun opens found' => ?_
    split
    · next print =>
      obtain rfl : tokens.head?.any (·.isSymbol "(") = opens := Option.some.inj found'
      cases tokens with
      | nil => simp at print
      | cons opening tokens =>
        exact (heeds_skip _ token).bind fun _ _ =>
          heeds_call outside inside loud token opening tokens
    split
    · exact (heeds_skip _ token).bind fun _ _ => (inside _).bind fun _ _ =>
        (heeds_expect _ outside.not_closing).bind fun _ _ => heeds_pure _ _
    · exact heeds_fail _ _ _

theorem heeds_arithmetic (inside : ∀ tokens, near.Heeds (mark :: later) far tokens)
    (loud : far.Loud) (tokens : List Token) :
    (arithmetic free near).Heeds (mark :: later) (arithmetic free far) tokens :=
  heeds_chain outside _ (heeds_chain outside _ (heeds_factor outside inside loud)) tokens

theorem heeds_comparison (inside : ∀ tokens, near.Heeds (mark :: later) far tokens)
    (loud : far.Loud) (tokens : List Token) :
    (comparison free near).Heeds (mark :: later) (comparison free far) tokens := by
  refine (heeds_arithmetic outside inside loud tokens).bind fun left _ =>
    (heeds_accept (outside.not_operatorOf _)).bind fun sign _ => ?_
  cases sign with
  | none => exact heeds_pure _ _
  | some sign =>
    exact (heeds_arithmetic outside inside loud _).bind fun right _ => heeds_pure _ _

/-- An expression is read the same whether the tokens end or the barrier follows. -/
theorem heeds_expression (nearLine farLine : UInt32) (free : Nat) (tokens : List Token) :
    (expression nearLine free).Heeds (mark :: later) (expression farLine free) tokens := by
  induction free generalizing tokens with
  | zero => exact heeds_tooDeep _ _ _ _
  | succ free ih => exact heeds_comparison outside ih (expression_loud farLine free) tokens

end Expressions

/-- No body goes on at a `def`. -/
theorem Ending.stops_of_def (ending : Ending) {token : Token}
    (isDef : token.isKeyword "def" = true) : ending.stops token = true := by
  cases ending <;> simp [Ending.stops, isDef]

section Statements

variable {near far nearInside farInside : Reader Node} (isDef : mark.isKeyword "def" = true)

include isDef

/-- A body ends at the barrier as it does at the end. -/
theorem heeds_block
    (inside : ∀ token tokens, near.Heeds (mark :: later) far (token :: tokens))
    (shorter : ∀ tokens node, (near tokens).result = some node →
      (near tokens).rest.length < tokens.length) (ending : Ending) (tokens : List Token) :
    Heeds (mark :: later) (block ending.stops near) (block ending.stops far) tokens := by
  cases tokens with
  | nil => exact .of_eq (block_stop rfl) (block_stop (ending.stops_of_def isDef)) (heeds_pure _ _)
  | cons token rest =>
    by_cases halt : ending.stops token = true
    · exact .of_eq (block_stop halt) (block_stop halt) (heeds_pure _ _)
    · rw [Bool.not_eq_true] at halt
      have heeds := inside token rest
      refine .of_eq (block_step halt (shorter _)) (block_step halt fun node found => ?_) ?_
      · exact heeds.shorter_iff.mpr (shorter _ node (heeds.result.symm.trans found))
      · refine (heeds_attempt heeds).bind fun found success => ?_
        cases found with
        | none => exact heeds_pure _ _
        | some node =>
          have goesOn := shorter _ node (Option.some.inj success)
          exact (heeds_block inside shorter ending _).bind fun others _ => heeds_pure _ _
termination_by tokens.length
decreasing_by exact goesOn

theorem heeds_functionDef
    (blocks : ∀ (ending : Ending) tokens, Heeds (mark :: later) (block ending.stops near)
      (block ending.stops far) tokens) (token : Token) (tokens : List Token) :
    (functionDef near).Heeds (mark :: later) (functionDef far) (token :: tokens) := by
  have identifier : Foreign (·.kind == .identifier) := foreign_kind (by decide)
  refine (heeds_skip _ token).bind fun _ _ =>
    (heeds_expect _ (identifier mark isDef)).bind fun name _ =>
      (heeds_expect _ (foreign_symbol "(" mark isDef)).bind fun _ _ =>
        heeds_enclosed (foreign_symbol "," mark isDef) (foreign_symbol ")" mark isDef)
          (fun _ => heeds_attempt (heeds_expect _ (identifier mark isDef))) (loud_attempt _)
          (fun parameters _ => ?_) _
  exact (heeds_expect _ (foreign_symbol ":" mark isDef)).bind fun _ _ =>
    (blocks .atDef _).bind fun _ _ => heeds_pure _ _

theorem heeds_ifStatement
    (blocks : ∀ (ending : Ending) tokens, Heeds (mark :: later) (block ending.stops near)
      (block ending.stops far) tokens)
    (expressions : ∀ tokens, nearInside.Heeds (mark :: later) farInside tokens)
    (token : Token) (tokens : List Token) :
    (ifStatement near nearInside token).Heeds (mark :: later)
      (ifStatement far farInside token) (token :: tokens) := by
  refine (heeds_skip _ token).bind fun _ _ => (expressions _).bind fun condition _ =>
    (heeds_expect _ (foreign_symbol ":" mark isDef)).bind fun _ _ =>
      (blocks .atElse _).bind fun thenBody _ =>
        (heeds_next (foreign_keyword (by decide) mark isDef)).bind fun other found => ?_
  split
  · next isOther =>
    have there := (Option.some.inj found).trans isOther
    exact (heeds_skip_of_any _ there).bind fun _ _ =>
      (heeds_expect _ (foreign_symbol ":" mark isDef)).bind fun _ _ =>
        (blocks .atDef _).bind fun _ _ => heeds_pure _ _
  · exact heeds_pure _ _

theorem heeds_returnStatement
    (expressions : ∀ tokens, nearInside.Heeds (mark :: later) farInside tokens)
    (token : Token) (tokens : List Token) :
    (returnStatement nearInside token).Heeds (mark :: later)
      (returnStatement farInside token) (token :: tokens) := by
  have foreign : Foreign (·.kind != .keyword) := fun _ keyword => by
    simp [Token.kind_of_isKeyword keyword]
  refine (heeds_skip _ token).bind fun _ _ =>
    (heeds_next (foreign mark isDef)).bind fun more _ => ?_
  split
  · exact (expressions _).bind fun _ _ => heeds_pure _ _
  · exact heeds_pure _ _

theorem heeds_statementOf
    (blocks : ∀ (ending : Ending) tokens, Heeds (mark :: later) (block ending.stops near)
      (block ending.stops far) tokens)
    (expressions : ∀ tokens, nearInside.Heeds (mark :: later) farInside tokens)
    (token : Token) (tokens : List Token) :
    (statementOf near nearInside).Heeds (mark :: later)
      (statementOf far farInside) (token :: tokens) := by
  refine (heeds_peek _ token).bind fun next found => ?_
  obtain rfl := Option.some.inj found
  dsimp only [List.head?_cons]
  split
  · exact heeds_functionDef isDef blocks token tokens
  split
  · exact heeds_ifStatement isDef blocks expressions token tokens
  split
  · exact heeds_returnStatement isDef expressions token tokens
  refine (heeds_second (foreign_is (by decide) "=" mark isDef) token).bind fun equals found' => ?_
  split
  · next isTarget =>
    obtain rfl : tokens.head?.any (·.isOperator "=") = equals := Option.some.inj found'
    cases tokens with
    | nil => simp at isTarget
    | cons sign tokens =>
      exact (heeds_skip _ token).bind fun _ _ => (heeds_skip _ sign).bind fun _ _ =>
        (expressions _).bind fun _ _ => heeds_pure _ _
  · exact expressions _

theorem heeds_statement (nearLine farLine : UInt32) (free : Nat) (token : Token)
    (tokens : List Token) :
    (statement nearLine free).Heeds (mark :: later) (statement farLine free)
      (token :: tokens) := by
  induction free generalizing token tokens with
  | zero => exact heeds_tooDeep _ _ _ _
  | succ free ih =>
    exact heeds_statementOf isDef (heeds_block isDef ih fun _ _ => statement_shorter)
      (heeds_expression (outside_of_def isDef) nearLine farLine free) token tokens

end Statements

theorem Reader.Heeds.resumption {barrier : List Token} {near far : Reader Node} {token : Token}
    {tokens : List Token} (heeds : near.Heeds barrier far (token :: tokens)) :
    resumption far token (tokens ++ barrier) = resumption near token tokens ++ barrier := by
  have shorter_iff := heeds.shorter_iff
  have rest := heeds.rest
  rw [List.cons_append] at shorter_iff rest
  rw [Grammar.resumption, Grammar.resumption]
  by_cases shorter : (near (token :: tokens)).rest.length < (token :: tokens).length
  · rw [if_pos shorter, if_pos (shorter_iff.mpr shorter), rest]
  · rw [if_neg shorter, if_neg fun longer => shorter (shorter_iff.mp longer)]

/-- Reading statements comes to an end at a barrier, and begins anew behind it. -/
theorem statements_append {near far : Reader Node}
    (heeds : ∀ token tokens, near.Heeds (mark :: later) far (token :: tokens))
    (tokens : List Token) :
    (statements far (tokens ++ mark :: later)).1 =
        (statements near tokens).1 ++ (statements far (mark :: later)).1 ∧
      ((statements far (tokens ++ mark :: later)).2 = [] ↔
        (statements near tokens).2 = [] ∧ (statements far (mark :: later)).2 = []) := by
  cases tokens with
  | nil => simp [statements_nil]
  | cons token rest =>
    have alike := heeds token rest
    obtain ⟨trees, silent⟩ := statements_append heeds (resumption near token rest)
    rw [← alike.resumption] at trees silent
    have result := alike.result
    have faults := alike.silent
    rw [List.cons_append] at result faults ⊢
    rw [statements_cons, statements_cons near, result]
    refine ⟨by rw [trees, List.append_assoc], ?_⟩
    rw [List.append_eq_nil_iff, List.append_eq_nil_iff, faults, silent, and_assoc]
termination_by tokens.length
decreasing_by exact Nat.lt_succ_of_le (resumption_suffix near token rest).length_le

theorem lastLine_append_cons (a : List Token) (last : Token) (b : List Token) :
    lastLine (a ++ last :: b) = lastLine (last :: b) := by
  simp [lastLine, List.getLast?_append, List.getLast?_cons]

/-- A definition separates what stands before it from itself and all that follows: neither alters
what is read of the other, nor whether it is without fault. -/
theorem ofTokens_append_definition (a b : List Token)
    (barrier : (significantTokens b).head?.any (·.isKeyword "def") = true) :
    (TreeReport.ofTokens (a ++ b)).tree.children =
        (TreeReport.ofTokens a).tree.children ++ (TreeReport.ofTokens b).tree.children ∧
      (significantTokens a ≠ [] →
        ((TreeReport.ofTokens (a ++ b)).valid = true ↔
          (TreeReport.ofTokens a).valid = true ∧ (TreeReport.ofTokens b).valid = true)) := by
  obtain ⟨keyword, later, atHead, isDef⟩ : ∃ keyword later,
      significantTokens b = keyword :: later ∧ keyword.isKeyword "def" = true := by
    cases atHead : significantTokens b with
    | nil => simp [atHead] at barrier
    | cons keyword later => exact ⟨keyword, later, rfl, by simpa [atHead] using barrier⟩
  have last := lastLine_append_cons (significantTokens a) keyword later
  obtain ⟨trees, faults⟩ := statements_append
    (heeds_statement isDef (lastLine (significantTokens a)) (lastLine (keyword :: later))
      maxNestingDepth) (significantTokens a)
  simp only [tree_eq_descend, valid_iff, significantTokens_append, atHead, descend, last,
    Node.program, Node.children]
  refine ⟨trees, fun nonempty => ?_⟩
  simp [faults, nonempty]

/-- An assignment that is left open within a call within parentheses. -/
def brokenSource : String :=
  "x = (f(1,\n"

def definitionSource : String :=
  "# next\ndef g(a):\n  return a"

theorem ofTokens_append_definition_broken :
    (significantTokens (tokenize definitionSource)).head?.any (·.isKeyword "def") = true ∧
    (TreeReport.ofTokens (tokenize brokenSource ++ tokenize definitionSource)).tree.children =
      (TreeReport.ofTokens (tokenize brokenSource)).tree.children ++
        (TreeReport.ofTokens (tokenize definitionSource)).tree.children ∧
    significantTokens (tokenize brokenSource) ≠ [] ∧
    ((TreeReport.ofTokens (tokenize brokenSource ++ tokenize definitionSource)).valid = true ↔
      (TreeReport.ofTokens (tokenize brokenSource)).valid = true ∧
        (TreeReport.ofTokens (tokenize definitionSource)).valid = true) := by
  have barrier :
      (significantTokens (tokenize definitionSource)).head?.any (·.isKeyword "def") = true := by
    decide +kernel
  have nonempty : significantTokens (tokenize brokenSource) ≠ [] := by decide +kernel
  obtain ⟨children, valid⟩ := ofTokens_append_definition (tokenize brokenSource) _ barrier
  exact ⟨barrier, children, nonempty, valid nonempty⟩

end SnippetCheck.Grammar

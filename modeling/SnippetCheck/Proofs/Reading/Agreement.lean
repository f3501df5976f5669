import SnippetCheck.Proofs.Lists
import SnippetCheck.Proofs.Reading.Comparison
import SnippetCheck.Proofs.Reading.Statement
import SnippetCheck.Proofs.Tree.Lines

namespace SnippetCheck.Grammar

open Reader

variable {compare : Comparison} {token token' : Token} {tokens tokens' : List Token}

section Expressions

variable {inner inner' operand operand' : Reader Node} {free : Nat}

theorem respects_operator (operators : List String) :
    compare.Respects (isOperatorOf operators) :=
  fun _ _ same => compare.isOperatorOf_eq same operators

theorem sameShape_binary (same : compare.tokens token token') {left left' right right' : Node}
    (first : Node.SameShape left left') (second : Node.SameShape right right') :
    Node.SameShape (.binary token.text token.line left right)
      (.binary token'.text token'.line left' right') := by
  rw [compare.text same]
  exact .mk _ _ (.cons first (.cons second .nil))

/-- The loop over a chain takes the same turns: signs, and the heights that the depth bound looks
at, are the same in both runs. -/
theorem agrees_chainFrom (operators : List String)
    (operands : operand.Agrees compare Node.SameShape operand') {left left' : Node}
    (shape : Node.SameShape left left') (height : Option Nat) :
    Reader.Agrees compare Node.SameShape (chainFrom free operators operand left height)
      (chainFrom free operators operand' left' height) := by
  intro tokens tokens' same
  have signs := (respects_operator operators).any_head? same
  by_cases isSign : tokens.head?.any (isOperatorOf operators) = true
  · cases same with
    | nil => cases isSign
    | @cons sign sign' rest rest' first others =>
      rw [chainFrom_step isSign, chainFrom_step (signs.symm.trans isSign)]
      refine .bind (agrees_skip (.cons first others)) fun _ _ _ _ => ?_
      refine .bind (operands others) fun right right' _ shape' => ?_
      rw [← shape.height_eq, ← shape'.height_eq]
      split
      · exact agrees_fail (compare.nestingTooDeep _ _) (operands others).rest
      · exact agrees_chainFrom operators operands (sameShape_binary first shape shape') _
          (operands others).rest
  · rw [Bool.not_eq_true] at isSign
    rw [chainFrom_stop isSign, chainFrom_stop (signs.symm.trans isSign)]
    exact agrees_pure shape same
termination_by tokens => tokens.length
decreasing_by exact Nat.lt_succ_of_le (operand rest).suffix.length_le

theorem agrees_chain (operators : List String)
    (operands : operand.Agrees compare Node.SameShape operand') :
    (chain free operators operand).Agrees compare Node.SameShape
      (chain free operators operand') :=
  .bind operands fun _ _ shape => agrees_chainFrom operators operands shape none

theorem agrees_leaf (kind : NodeKind) (same : compare.tokens token token') :
    (pure (.leaf kind token.text token.line) : Reader Node).Agrees compare Node.SameShape
      (pure (.leaf kind token'.text token'.line)) := by
  rw [compare.text same]
  exact agrees_pure (.leaf kind _)

theorem agrees_call (inside : inner.Agrees compare Node.SameShape inner')
    (same : compare.tokens token token') :
    (call inner token).Agrees compare Node.SameShape (call inner' token') := by
  refine .bind agrees_skip fun _ _ _ => ?_
  refine .bind (agrees_commaSeparated inside) fun arguments arguments' below => ?_
  refine .bind (agrees_symbol (by decide)) fun _ _ _ => ?_
  rw [compare.text same]
  exact agrees_pure (.mk _ _ below)

/-- Which kind of factor stands here is told by what both runs see alike. -/
theorem agrees_factor (inside : inner.Agrees compare Node.SameShape inner') :
    (factor inner).Agrees compare Node.SameShape (factor inner') := by
  refine .bind agrees_peek fun found found' same => ?_
  cases same with
  | none => exact agrees_fail (compare.expectedAtEnd (by decide))
  | @some token token' same =>
    have opens : compare.Respects (·.isSymbol "(") := respects_symbol "("
    simp only [← compare.kind same, ← respects_keyword "print" same, ← opens same]
    have alone (kind : NodeKind) :
        (do skip; return .leaf kind token.text token.line : Reader Node).Agrees compare
          Node.SameShape (do skip; return .leaf kind token'.text token'.line) :=
      .bind agrees_skip fun _ _ _ => agrees_leaf kind same
    refine .ite (fun _ => alone .number) fun _ => ?_
    refine .ite (fun _ => alone .string) fun noString => ?_
    refine .ite (fun _ => ?_) fun _ => ?_
    · exact .bind agrees_skip fun _ _ _ =>
        agrees_ifNext opens (agrees_call inside same) (agrees_leaf .identifier same)
    refine .bind (agrees_second opens) fun called _ agree => ?_
    subst agree
    refine .ite (fun _ => ?_) fun _ => .ite (fun _ => ?_) fun _ => ?_
    · exact .bind agrees_skip fun _ _ _ => agrees_call inside same
    · refine .bind agrees_skip fun _ _ _ => .bind inside fun _ _ shape => ?_
      exact .bind (agrees_symbol (by decide)) fun _ _ _ => agrees_pure shape
    · exact agrees_fail (compare.unexpectedToken noString same)

theorem agrees_arithmetic (inside : inner.Agrees compare Node.SameShape inner') :
    (arithmetic free inner).Agrees compare Node.SameShape (arithmetic free inner') :=
  agrees_chain arithmeticOperators (agrees_chain termOperators (agrees_factor inside))

/-- At most one sign is taken, and both runs take it or leave it. -/
theorem agrees_comparison (inside : inner.Agrees compare Node.SameShape inner') :
    (comparison free inner).Agrees compare Node.SameShape (comparison free inner') := by
  refine .bind (agrees_arithmetic inside) fun _ _ left => ?_
  refine .bind (agrees_accept (respects_operator _)) fun found found' same => ?_
  cases same with
  | none => exact agrees_pure left
  | some same =>
    exact .bind (agrees_arithmetic inside) fun _ _ right =>
      agrees_pure (sameShape_binary same left right)

/-- The line that the fault is laid to is no part of the comparison. -/
theorem agrees_tooDeep (lastLine lastLine' : UInt32) :
    (tooDeep lastLine).Agrees compare Node.SameShape (tooDeep lastLine') :=
  fun _ _ same => agrees_fail (compare.nestingTooDeep _ _) same

/-- Expressions with the same number of free levels agree, wherever the program ends. -/
theorem agrees_expression (lastLine lastLine' : UInt32) (free : Nat) :
    (expression lastLine free).Agrees compare Node.SameShape (expression lastLine' free) := by
  induction free with
  | zero => exact agrees_tooDeep lastLine lastLine'
  | succ free ih => exact agrees_comparison ih

end Expressions

section Statements

variable {inner inner' inside inside' : Reader Node}

/-- A success takes a token at least. -/
def Reader.Takes (reader : Reader Node) : Prop :=
  ∀ tokens node, (reader tokens).result = some node → (reader tokens).rest.length < tokens.length

/-- A body goes on alike in two readings if a statement takes a token at least in both. -/
theorem agrees_block {stop : Token → Bool} (respects : compare.Respects stop)
    (statements : inner.Agrees compare Node.SameShape inner') (takes : inner.Takes)
    (takes' : inner'.Takes) :
    Reader.Agrees compare (List.Forall₂ Node.SameShape) (block stop inner) (block stop inner') := by
  intro tokens tokens' same
  by_cases stops : tokens.head?.all stop = true
  · have stops' : tokens'.head?.all stop = true := by
      cases same with
      | nil => rfl
      | cons first _ => exact (respects first).symm.trans stops
    rw [block_stop stops, block_stop stops']
    exact agrees_pure .nil same
  cases same with
  | nil => exact absurd rfl stops
  | @cons token token' rest rest' first others =>
    have goesOn : stop token = false := by simpa using stops
    have read := agrees_attempt statements (.cons first others)
    rw [block_step goesOn (takes _),
      block_step ((respects first).symm.trans goesOn) (takes' _)]
    refine .bind read fun found found' result agree => ?_
    cases agree with
    | none => exact agrees_pure .nil read.rest
    | some shape =>
      have _shorter := takes _ _ (Option.some.inj result)
      have more := agrees_block respects statements takes takes' read.rest
      exact .bind more fun _ _ _ shapes => agrees_pure (.cons shape shapes) more.rest
termination_by tokens => tokens.length
decreasing_by exact _shorter

/-- Both runs leave out the same parameters, those that are no names. -/
theorem rel_parameters {found found' : List (Option Token)}
    (same : List.Forall₂ (Option.Rel compare.tokens) found found') :
    List.Forall₂ Node.SameShape ((found.filterMap id).map parameter)
      ((found'.filterMap id).map parameter) := by
  induction same with
  | nil => exact .nil
  | cons first _ ih =>
    cases first with
    | none => exact ih
    | some first =>
      refine .cons ?_ ih
      rw [parameter, parameter, compare.text first]
      exact .leaf _ _

section Compound

variable (statements : inner.Agrees compare Node.SameShape inner') (takes : inner.Takes)
  (takes' : inner'.Takes) (expressions : inside.Agrees compare Node.SameShape inside')

include statements takes takes'

/-- Both runs pass the signature together, faults in the parameter list included. -/
theorem agrees_functionDef :
    (functionDef inner).Agrees compare Node.SameShape (functionDef inner') := by
  refine .bind agrees_skip fun _ _ _ => .bind (agrees_name (by decide)) fun name name' same => ?_
  refine .bind (agrees_symbol (by decide)) fun _ _ _ => ?_
  refine .bind (agrees_commaSeparated (agrees_attempt (agrees_name (by decide))))
    fun found found' parameters => ?_
  refine .bind (agrees_symbol (by decide)) fun _ _ _ => ?_
  refine .bind (agrees_symbol (by decide)) fun _ _ _ => ?_
  refine .bind (agrees_block (respects_keyword _) statements takes takes') fun _ _ body => ?_
  rw [compare.text same]
  exact agrees_pure (.mk _ _ (List.rel_append (rel_parameters parameters) body))

include expressions

theorem agrees_ifStatement :
    (ifStatement inner inside token).Agrees compare Node.SameShape
      (ifStatement inner' inside' token') := by
  have endsElse : compare.Respects fun token => token.isKeyword "else" || token.isKeyword "def" :=
    fun _ _ same => congrArg₂ or (respects_keyword "else" same) (respects_keyword "def" same)
  have blocks {stop : Token → Bool} (respects : compare.Respects stop) :=
    agrees_block respects statements takes takes'
  refine .bind agrees_skip fun _ _ _ => .bind expressions fun _ _ condition => ?_
  refine .bind (agrees_symbol (by decide)) fun _ _ _ => .bind (blocks endsElse) fun _ _ body => ?_
  refine agrees_ifNext (respects_keyword _) ?_ (agrees_pure (.mk _ _ (.cons condition body)))
  refine .bind agrees_skip fun _ _ _ => .bind (agrees_symbol (by decide)) fun _ _ _ => ?_
  exact .bind (blocks (respects_keyword _)) fun _ _ body' =>
    agrees_pure (.mk _ _ (.cons condition (List.rel_append body body')))

end Compound

section Simple

variable (expressions : inside.Agrees compare Node.SameShape inside')

include expressions

theorem agrees_returnStatement :
    (returnStatement inside token).Agrees compare Node.SameShape
      (returnStatement inside' token') := by
  have respects : compare.Respects (·.kind != .keyword) :=
    fun _ _ same => congrArg not (respects_kind .keyword same)
  refine .bind agrees_skip fun _ _ _ => agrees_ifNext respects ?_ (agrees_pure (.leaf _ _))
  exact .bind expressions fun _ _ value => agrees_pure (.mk _ _ (.cons value .nil))

theorem agrees_assignment (same : compare.tokens token token') :
    (assignment inside token).Agrees compare Node.SameShape (assignment inside' token') := by
  refine .bind agrees_skip fun _ _ _ => .bind agrees_skip fun _ _ _ => ?_
  refine .bind expressions fun _ _ value => ?_
  rw [compare.text same]
  exact agrees_pure (.mk _ _ (.cons value .nil))

end Simple

/-- Which kind of statement stands here is told by what both runs see alike. -/
theorem agrees_statementOf (statements : inner.Agrees compare Node.SameShape inner')
    (takes : inner.Takes) (takes' : inner'.Takes)
    (expressions : inside.Agrees compare Node.SameShape inside') :
    (statementOf inner inside).Agrees compare Node.SameShape (statementOf inner' inside') := by
  refine .bind agrees_peek fun found found' same => ?_
  cases same with
  | none => exact expressions
  | @some token token' same =>
    simp only [← compare.kind same, ← respects_keyword _ same]
    refine .ite (fun _ => agrees_functionDef statements takes takes') fun _ => ?_
    refine .ite (fun _ => agrees_ifStatement statements takes takes' expressions) fun _ => ?_
    refine .ite (fun _ => agrees_returnStatement expressions) fun _ => ?_
    have equals : compare.Respects (·.isOperator "=") :=
      fun _ _ same => compare.is_eq same .operator "="
    refine .bind (agrees_second equals) fun assigned _ agree => ?_
    subst agree
    exact .ite (fun _ => agrees_assignment expressions same) fun _ => expressions

/-- A statement that is read has taken a token. -/
theorem statement_takes (lastLine : UInt32) (free : Nat) : (statement lastLine free).Takes :=
  fun _ _ => statement_shorter

/-- Statements with the same number of free levels agree, wherever the program ends. -/
theorem agrees_statement (lastLine lastLine' : UInt32) (free : Nat) :
    (statement lastLine free).Agrees compare Node.SameShape (statement lastLine' free) := by
  induction free with
  | zero => exact agrees_tooDeep lastLine lastLine'
  | succ free ih =>
    exact agrees_statementOf ih (statement_takes lastLine free) (statement_takes lastLine' free)
      (agrees_expression lastLine lastLine' free)

/-- After a statement both runs go on at tokens that stand for one another. -/
theorem rel_resumption (statements : inner.Agrees compare Node.SameShape inner')
    (first : compare.tokens token token') (others : List.Forall₂ compare.tokens tokens tokens') :
    List.Forall₂ compare.tokens (resumption inner token tokens)
      (resumption inner' token' tokens') := by
  have read := (statements (.cons first others)).rest
  rw [resumption, resumption, read.length_eq, List.length_cons, List.length_cons, others.length_eq]
  split
  · exact read
  · exact others

/-- Two runs over whole token lists agree, wherever statements fail and reading goes on. -/
theorem agrees_statements (each : inner.Agrees compare Node.SameShape inner')
    {tokens tokens' : List Token} (same : List.Forall₂ compare.tokens tokens tokens') :
    List.Forall₂ Node.SameShape (statements inner tokens).1 (statements inner' tokens').1 ∧
      List.Forall₂ compare.faults (statements inner tokens).2 (statements inner' tokens').2 := by
  cases same with
  | nil =>
    rw [statements_nil, statements_nil]
    exact ⟨.nil, .nil⟩
  | @cons token token' rest rest' first others =>
    have read := each (.cons first others)
    obtain ⟨trees, faults⟩ := agrees_statements each (rel_resumption each first others)
    rw [statements_cons, statements_cons]
    exact ⟨List.rel_append (forall₂_toList read.result) trees, List.rel_append read.faults faults⟩
termination_by tokens.length
decreasing_by exact Nat.lt_succ_of_le (resumption_suffix _ token rest).length_le

end Statements

section Structure

/-- What matching brackets comes to in two runs: it stops with faults that answer one another, or
goes on with brackets open that stand for one another. -/
inductive SameMatching (compare : Comparison) :
    Except Diagnostic (List OpenBracket) → Except Diagnostic (List OpenBracket) → Prop
  | stopped {fault fault'} : compare.faults fault fault' →
      SameMatching compare (.error fault) (.error fault')
  | goesOn {opened opened'} : List.Forall₂ (OpenedBy compare.tokens) opened opened' →
      SameMatching compare (.ok opened) (.ok opened')

/-- A token opens, closes or breaks the same brackets on both sides. -/
theorem sameMatching_step (same : compare.tokens token token') {opened opened' : List OpenBracket}
    (outside : List.Forall₂ (OpenedBy compare.tokens) opened opened') :
    SameMatching compare (Brackets.step opened token) (Brackets.step opened' token') := by
  have text := compare.text same
  simp only [Brackets.step, ← compare.kind same, ← text]
  split
  · next symbol =>
    split
    · exact .goesOn (.cons ⟨token, token', same, symbol, rfl, text ▸ rfl⟩ outside)
    cases found : Brackets.openerFor token.text with
    | none => exact .goesOn outside
    | some opener =>
      cases outside with
      | nil => exact .stopped (text ▸ compare.unmatchedCloser symbol same)
      | @cons innermost innermost' outer outer' first others =>
        have answer := compare.mismatchedBracket symbol same first
        obtain ⟨opening, opening', same', -, rfl, rfl⟩ := first
        simp only [← compare.text same'] at answer ⊢
        split
        · exact .goesOn others
        · exact .stopped (text ▸ answer)
  · exact .goesOn outside

theorem sameMatching_foldlM (same : List.Forall₂ compare.tokens tokens tokens')
    {opened opened' : List OpenBracket}
    (outside : List.Forall₂ (OpenedBy compare.tokens) opened opened') :
    SameMatching compare (tokens.foldlM Brackets.step opened)
      (tokens'.foldlM Brackets.step opened') := by
  induction same generalizing opened opened' with
  | nil => exact .goesOn outside
  | cons first _ ih =>
    rw [List.foldlM_cons, List.foldlM_cons]
    have matching := sameMatching_step first outside
    generalize Brackets.step opened _ = found, Brackets.step opened' _ = found' at matching ⊢
    cases matching with
    | stopped answer => exact .stopped answer
    | goesOn inside => exact ih inside

/-- Both token lists have the same fault of brackets, or none. -/
theorem rel_brackets (same : List.Forall₂ compare.tokens tokens tokens') :
    List.Forall₂ compare.faults (Brackets.check tokens) (Brackets.check tokens') := by
  rw [Brackets.check, Brackets.check]
  have matching := sameMatching_foldlM same .nil
  generalize tokens.foldlM Brackets.step [] = found, tokens'.foldlM Brackets.step [] = found'
    at matching ⊢
  cases matching with
  | stopped answer => exact .cons answer .nil
  | @goesOn opened opened' open' =>
    have outwards := List.rel_reverse open'
    dsimp only
    rw [Brackets.leftOpen, Brackets.leftOpen]
    generalize opened.reverse = found, opened'.reverse = found' at outwards ⊢
    cases outwards with
    | nil => exact .nil
    | cons outermost inner => exact .cons (compare.unclosedBrackets (.cons outermost inner)) .nil

/-- Up to the next stop, both lists have a token that meets the condition, or neither has. -/
theorem Comparison.Respects.any_before {condition stop : Token → Bool}
    (respects : compare.Respects condition) (stops : compare.Respects stop)
    (same : List.Forall₂ compare.tokens tokens tokens') :
    (tokens.takeWhile fun token => !stop token).any condition =
      (tokens'.takeWhile fun token => !stop token).any condition := by
  induction same with
  | nil => rfl
  | cons first _ ih =>
    rw [List.takeWhile_cons, List.takeWhile_cons, ← stops first]
    split
    · rw [List.any_cons, List.any_cons, ih, respects first]
    · rfl

/-- Both definitions lack the same part of their signature, or none. -/
theorem rel_fault (same : List.Forall₂ compare.tokens tokens tokens') (line line' : UInt32) :
    Option.Rel compare.faults (Signatures.fault line tokens) (Signatures.fault line' tokens') := by
  cases same with
  | nil => exact .some (compare.missingFunctionName line line')
  | @cons name name' rest rest' first others =>
    simp only [Signatures.fault, ← compare.kind first,
      ← (respects_symbol "(").any_head? others,
      ← (respects_symbol ":").any_before (respects_keyword "def") others]
    split
    · split
      · split
        · exact .none
        · exact .some (compare.missingFunctionColon line line')
      · exact .some (compare.missingParameterList line line')
    · exact .some (compare.missingFunctionName line line')

theorem rel_signatures (same : List.Forall₂ compare.tokens tokens tokens') :
    List.Forall₂ compare.faults (Signatures.check tokens) (Signatures.check tokens') := by
  induction same with
  | nil => exact .nil
  | cons first others ih =>
    have isDef := respects_keyword "def" first
    dsimp only at isDef
    rw [Signatures.check, Signatures.check, ← isDef]
    refine List.rel_append ?_ ih
    split
    · exact forall₂_toList (rel_fault others _ _)
    · exact .nil

theorem rel_structuralFaults (same : List.Forall₂ compare.tokens tokens tokens') :
    List.Forall₂ compare.faults (structuralFaults tokens) (structuralFaults tokens') :=
  List.rel_append (rel_brackets same) (rel_signatures same)

end Structure

theorem sameShape_program {nodes nodes' : List Node}
    (same : List.Forall₂ Node.SameShape nodes nodes') :
    Node.SameShape (.program nodes) (.program nodes') :=
  .mk .program "" same

/-- Programs whose significant tokens stand for one another are parsed to trees of one shape, and
the faults found in them answer one another one by one. -/
theorem agrees_parse
    (same : List.Forall₂ compare.tokens (significantTokens tokens) (significantTokens tokens')) :
    Node.SameShape (parse tokens).1 (parse tokens').1 ∧
      List.Forall₂ compare.faults (parse tokens).2 (parse tokens').2 := by
  rw [parse, parse]
  generalize significantTokens tokens = found, significantTokens tokens' = found' at same ⊢
  cases same with
  | nil => exact ⟨sameShape_program .nil, .cons compare.noTokens .nil⟩
  | cons first others =>
    have same := List.Forall₂.cons first others
    obtain ⟨trees, faults⟩ := agrees_statements (agrees_statement _ _ maxNestingDepth) same
    exact ⟨sameShape_program trees, List.rel_append (rel_structuralFaults same) faults⟩

end SnippetCheck.Grammar

import SnippetCheck.Proofs.Language.Separation
import SnippetCheck.Proofs.Token.Signature

namespace SnippetCheck.Grammar

open Reader

/-- The tokens are accepted, as a program of these statements. -/
def AcceptedAs (tokens : List Token) (trees : List Node) : Prop :=
  (TreeReport.ofTokens tokens).valid = true ∧ (TreeReport.ofTokens tokens).tree = .program trees

theorem acceptedAs_of_descend {tokens : List Token} {token : Token} {rest : List Token}
    {trees : List Node} (begins : significantTokens tokens = token :: rest)
    (descent : descend (token :: rest) = (trees, [])) : AcceptedAs tokens trees := by
  refine ⟨valid_iff.mpr ⟨by simp [begins], by rw [begins, descent]⟩, ?_⟩
  rw [tree_eq_descend, begins, descent]

section Whole

variable {lastLine : UInt32} {free : Nat} {tokens : List Token}

/-- Where nothing is found and nothing is wrong, there are no tokens. -/
theorem ReadsProgram.tokens_eq_nil (reads : ReadsProgram free tokens [] []) : tokens = [] := by
  generalize found : ([] : List Node) = trees at reads
  generalize silent : ([] : List Diagnostic) = faults at reads
  cases reads with
  | done => rfl
  | statement => simp at found
  | failure _ broken => exact absurd (List.append_eq_nil_iff.mp silent.symm).1 broken

/-- If one statement is found and nothing is wrong, the statement takes all the tokens. -/
theorem yields_of_statements {node : Node}
    (found : statements (statement lastLine free) tokens = ([node], [])) :
    (statement lastLine free).Yields tokens node [] [] := by
  cases tokens with
  | nil => simp [statements_nil] at found
  | cons token rest =>
    rw [statements_cons, Prod.mk.injEq, List.append_eq_nil_iff] at found
    obtain ⟨trees, silent, quiet⟩ := found
    cases result : (statement lastLine free (token :: rest)).result with
    | none => exact absurd silent (statement_loud lastLine free _ result)
    | some first =>
      rw [resumption_eq_rest (statement_shorter result)] at trees quiet
      rw [result, Option.toList_some, List.singleton_append, List.cons.injEq] at trees
      have others := statements_reads lastLine free (statement lastLine free (token :: rest)).rest
      rw [trees.2, quiet] at others
      exact ⟨result.trans (congrArg some trees.1), others.tokens_eq_nil, silent⟩

end Whole

section Positions

variable {lastLine : UInt32} {free : Nat} {keyword : Token} {tokens rest : List Token}
  {value : Node}

/-- An expression is read in the same way if a token follows that stands in none. -/
theorem expression_before_outside {nearLine farLine : UInt32} {mark : Token} {later : List Token}
    (outside : OutsideExpressions mark)
    (yields : (expression nearLine free).Yields tokens value rest []) :
    (expression farLine free).Yields (tokens ++ mark :: later) value (rest ++ mark :: later)
      [] := by
  obtain ⟨result, rfl, silent⟩ := yields
  have heeds := @heeds_expression mark later outside nearLine farLine free tokens
  exact ⟨heeds.result.trans result, heeds.rest, heeds.silent.mpr silent⟩

theorem assignment_value {name sign : Token} {node : Node} (isName : name.kind = .identifier)
    (isSign : sign.isOperator "=" = true)
    (yields : (statement lastLine (free + 1)).Yields (name :: sign :: tokens) node rest []) :
    ∃ value, node = .mk .assignment name.text name.line [value] ∧
      (expression lastLine free).Yields tokens value rest [] := by
  have noKeyword := Token.not_isKeyword_of_kind (by simp [isName] : name.kind ≠ .keyword)
  simp only [statement, statementOf, yields_peek_bind, List.head?_cons, noKeyword,
    Bool.false_eq_true, if_false, yields_second_bind, List.tail_cons, isName, Option.any_some,
    isSign, beq_self_eq_true, Bool.and_self, if_true, assignment, yields_skip_bind] at yields
  rw [yields_bind] at yields
  obtain ⟨value, _, before, after, found, rest, quiet⟩ := yields
  obtain ⟨rfl, rfl, rfl⟩ := yields_pure.mp rest
  obtain rfl : before = [] := by simpa using quiet.symm
  exact ⟨value, rfl, found⟩

theorem conditional_yields {colon : Token} (isIf : keyword.isKeyword "if" = true)
    (isColon : colon.isSymbol ":" = true)
    (condition : (expression lastLine free).Yields tokens value [colon] []) :
    (statement lastLine (free + 1)).Yields (keyword :: tokens)
      (.mk .ifStatement "" keyword.line [value]) [] [] := by
  have noDef := Token.not_isKeyword_of_ne isIf (by decide : "if" ≠ "def")
  simp only [statement, statementOf, yields_peek_bind, List.head?_cons, noDef, isIf,
    Bool.false_eq_true, if_false, if_true, ifStatement, yields_skip_bind, List.tail_cons]
  refine yields_bind.mpr ⟨value, [colon], [], [], condition, ?_, rfl⟩
  refine yields_expect_bind.mpr ⟨colon, [], rfl, isColon, ?_⟩
  refine yields_bind.mpr ⟨[], [], [], [], ?_, ?_, rfl⟩
  · rw [Reader.Yields, block_stop rfl]
    exact ⟨rfl, rfl, rfl⟩
  · simp only [yields_next_bind, List.head?_nil, Option.any_none, Bool.false_eq_true, if_false]
    exact yields_pure.mpr ⟨rfl, rfl, rfl⟩

theorem returnValue_yields (isReturn : keyword.isKeyword "return" = true)
    (more : tokens.head?.any (·.kind != .keyword) = true)
    (found : (expression lastLine free).Yields tokens value rest []) :
    (statement lastLine (free + 1)).Yields (keyword :: tokens)
      (.mk .returnStatement "" keyword.line [value]) rest [] := by
  have noDef := Token.not_isKeyword_of_ne isReturn (by decide : "return" ≠ "def")
  have noIf := Token.not_isKeyword_of_ne isReturn (by decide : "return" ≠ "if")
  simp only [statement, statementOf, yields_peek_bind, List.head?_cons, noDef, noIf, isReturn,
    Bool.false_eq_true, if_false, if_true, returnStatement, yields_skip_bind, List.tail_cons,
    yields_next_bind, more]
  exact yields_bind.mpr ⟨value, rest, [], [], found, by simp, rfl⟩

theorem bareReturn_yields (isReturn : keyword.isKeyword "return" = true)
    (alone : tokens.head?.any (·.kind != .keyword) = false) :
    (statement lastLine (free + 1)).Yields (keyword :: tokens)
      (.leaf .returnStatement "" keyword.line) tokens [] := by
  have noDef := Token.not_isKeyword_of_ne isReturn (by decide : "return" ≠ "def")
  have noIf := Token.not_isKeyword_of_ne isReturn (by decide : "return" ≠ "if")
  simp only [statement, statementOf, yields_peek_bind, List.head?_cons, noDef, noIf, isReturn,
    Bool.false_eq_true, if_false, if_true, returnStatement, yields_skip_bind, List.tail_cons,
    yields_next_bind, alone]
  exact yields_pure.mpr ⟨rfl, rfl, rfl⟩

/-- The one keyword that an expression begins with does not make it another statement. -/
theorem expressionStatement_yields {token : Token} (isKeyword : token.kind = .keyword)
    (starts : StartsExpression token)
    (found : (expression lastLine free).Yields (token :: tokens) value rest []) :
    (statement lastLine (free + 1)).Yields (token :: tokens) value rest [] := by
  have print : token.isKeyword "print" = true := by
    simpa [StartsExpression, isKeyword, Token.isSymbol, Token.is] using starts
  have noDef := Token.not_isKeyword_of_ne print (by decide : "print" ≠ "def")
  have noIf := Token.not_isKeyword_of_ne print (by decide : "print" ≠ "if")
  have noReturn := Token.not_isKeyword_of_ne print (by decide : "print" ≠ "return")
  have noName : (token.kind == .identifier) = false := by simp [isKeyword]
  simp only [statement, statementOf, yields_peek_bind, List.head?_cons, noDef, noIf, noReturn,
    Bool.false_eq_true, if_false, yields_second_bind, noName, Bool.false_and]
  exact found

end Positions

section Programs

variable {free : Nat} (room : maxNestingDepth = free + 1) {tokens more : List Token}
  {first : Token} {value : Node}

include room

theorem assigned_value {name sign : Token} (isName : name.kind = .identifier)
    (isSign : sign.isOperator "=" = true)
    (valid : (TreeReport.ofTokens (name :: sign :: tokens)).valid = true)
    (single : (TreeReport.ofTokens (name :: sign :: tokens)).tree.children.length = 1) :
    ∃ first more value, significantTokens tokens = first :: more ∧ StartsExpression first ∧
      (expression (lastLine (first :: more)) free).Yields (first :: more) value [] [] ∧
      AcceptedAs (name :: sign :: tokens) [.mk .assignment name.text name.line [value]] := by
  have isSignificant := Token.isSignificant_of_kind isName (by decide)
  have isSignificant' := Token.isSignificant_of_kind (Token.kind_of_isOperator isSign) (by decide)
  have begins : significantTokens (name :: sign :: tokens) =
      name :: sign :: significantTokens tokens := by
    simp [significantTokens, isSignificant, isSignificant']
  obtain ⟨-, silent⟩ := valid_iff.mp valid
  rw [tree_eq_descend] at single
  obtain ⟨node, only⟩ := List.length_eq_one_iff.mp single
  have descent : descend (name :: sign :: significantTokens tokens) = ([node], []) :=
    begins ▸ Prod.ext only silent
  have whole := yields_of_statements descent
  rw [room] at whole
  obtain ⟨value, rfl, found⟩ := assignment_value isName isSign whole
  have derived := (expression_realizes _ free found).derives rfl
  obtain ⟨first, more, atHead, starts⟩ := derived.starts rfl
  have last := lastLine_append_cons [name, sign] first more
  rw [atHead] at found descent begins
  exact ⟨first, more, value, atHead, starts, last ▸ found, acceptedAs_of_descend begins descent⟩

theorem acceptedAs_conditional {keyword colon : Token} (isIf : keyword.isKeyword "if" = true)
    (isColon : colon.isSymbol ":" = true) (begins : significantTokens tokens = first :: more)
    (found : (expression (lastLine (first :: more)) free).Yields (first :: more) value [] []) :
    AcceptedAs (keyword :: tokens ++ [colon]) [.mk .ifStatement "" keyword.line [value]] := by
  have isSignificant := Token.isSignificant_of_kind (Token.kind_of_isKeyword isIf) (by decide)
  have isSignificant' := Token.isSignificant_of_kind (Token.kind_of_isSymbol isColon) (by decide)
  have significant : significantTokens (keyword :: tokens ++ [colon]) =
      keyword :: (first :: more ++ [colon]) := by
    rw [significantTokens_append, ← begins]
    simp [significantTokens, isSignificant, isSignificant']
  refine acceptedAs_of_descend significant (statements_of_yields_all ?_)
  rw [room]
  exact conditional_yields isIf isColon
    (expression_before_outside (outside_of_colon isColon) found)

theorem acceptedAs_return {keyword : Token} (isReturn : keyword.isKeyword "return" = true)
    (begins : significantTokens tokens = first :: more) (starts : StartsExpression first)
    (found : (expression (lastLine (first :: more)) free).Yields (first :: more) value [] []) :
    AcceptedAs (keyword :: tokens)
      (if first.kind = .keyword then [.leaf .returnStatement "" keyword.line, value]
      else [.mk .returnStatement "" keyword.line [value]]) := by
  have isSignificant := Token.isSignificant_of_kind (Token.kind_of_isKeyword isReturn) (by decide)
  have significant : significantTokens (keyword :: tokens) = keyword :: first :: more := by
    rw [← begins]
    simp [significantTokens, isSignificant]
  have last : lastLine (keyword :: first :: more) = lastLine (first :: more) :=
    lastLine_append_cons [keyword] first more
  rw [← last] at found
  refine acceptedAs_of_descend significant ?_
  rw [descend, room]
  split
  · next isKeyword =>
    have alone : (first :: more).head?.any (·.kind != .keyword) = false := by simp [isKeyword]
    rw [statements_of_yields (bareReturn_yields isReturn alone) (Nat.lt_succ_self _),
      statements_of_yields_all (expressionStatement_yields isKeyword starts found)]
  · next isNone =>
    have more : (first :: more).head?.any (·.kind != .keyword) = true := by simp [isNone]
    exact statements_of_yields_all (returnValue_yields isReturn more found)

end Programs

/-- What is accepted as an assignment of a value is read as the same value behind an `if`, and
behind a `return` unless it begins with a keyword. The only keyword it can begin with is a `print`
that is called; before a keyword a `return` stands alone, and the value is a statement of its
own. -/
theorem acceptedAs_value {name sign : Token} {tokens : List Token}
    (isName : name.kind = .identifier) (isSign : sign.isOperator "=" = true)
    (valid : (TreeReport.ofTokens (name :: sign :: tokens)).valid = true)
    (single : (TreeReport.ofTokens (name :: sign :: tokens)).tree.children.length = 1) :
    ∃ first more value, significantTokens tokens = first :: more ∧
      AcceptedAs (name :: sign :: tokens) [.mk .assignment name.text name.line [value]] ∧
      (∀ keyword colon, keyword.isKeyword "if" = true → colon.isSymbol ":" = true →
        AcceptedAs (keyword :: tokens ++ [colon]) [.mk .ifStatement "" keyword.line [value]]) ∧
      ∀ keyword, keyword.isKeyword "return" = true →
        AcceptedAs (keyword :: tokens)
          (if first.kind = .keyword then [.leaf .returnStatement "" keyword.line, value]
          else [.mk .returnStatement "" keyword.line [value]]) := by
  have room : maxNestingDepth = 255 + 1 := rfl
  obtain ⟨first, more, value, begins, starts, found, assigned⟩ :=
    assigned_value room isName isSign valid single
  exact ⟨first, more, value, begins, assigned,
    fun keyword colon isIf isColon => acceptedAs_conditional room isIf isColon begins found,
    fun keyword isReturn => acceptedAs_return room isReturn begins starts found⟩

/-- A comparison of a call with a sum, with a comment in it. -/
def comparingTokens : List Token :=
  tokenize "f(a, 1) == (b + # one more\n 1)"

/-- The same, assigned to a name. -/
def comparingAssignment : List Token :=
  ⟨.identifier, "x", 1, 1⟩ :: ⟨.operator, "=", 1, 3⟩ :: comparingTokens

theorem acceptedAs_value_comparing :
    (TreeReport.ofTokens comparingAssignment).valid = true ∧
    (TreeReport.ofTokens comparingAssignment).tree.children.length = 1 ∧
    ∃ value, AcceptedAs comparingAssignment [.mk .assignment "x" 1 [value]] ∧
      AcceptedAs (⟨.keyword, "if", 1, 1⟩ :: comparingTokens ++ [⟨.symbol, ":", 2, 4⟩])
        [.mk .ifStatement "" 1 [value]] ∧
      AcceptedAs (⟨.keyword, "return", 1, 1⟩ :: comparingTokens)
        [.mk .returnStatement "" 1 [value]] := by
  have valid : (TreeReport.ofTokens comparingAssignment).valid = true := by decide +kernel
  have single : (TreeReport.ofTokens comparingAssignment).tree.children.length = 1 := by
    decide +kernel
  have noKeyword : (significantTokens comparingTokens).head?.any (·.kind == .keyword) = false := by
    decide +kernel
  obtain ⟨first, more, value, begins, assigned, tested, returned⟩ :=
    acceptedAs_value rfl (by decide) valid single
  have other : first.kind ≠ .keyword := by simpa [begins] using noKeyword
  have returned := returned ⟨.keyword, "return", 1, 1⟩ (by decide)
  rw [if_neg other] at returned
  exact ⟨valid, single, value, assigned, tested _ _ (by decide) (by decide), returned⟩

/-- A call of `print` is accepted as a value to assign, but a `return` does not take it. -/
theorem return_print_splits :
    (TreeReport.ofTokens (tokenize "x = print(1)")).valid = true ∧
    (TreeReport.ofTokens (tokenize "x = print(1)")).tree.children.map Node.kind =
      [.assignment] ∧
    (TreeReport.ofTokens (tokenize "return print(1)")).tree.children.map Node.kind =
      [.returnStatement, .functionCall] :=
  ⟨by decide +kernel, by decide +kernel, by decide +kernel⟩

end SnippetCheck.Grammar

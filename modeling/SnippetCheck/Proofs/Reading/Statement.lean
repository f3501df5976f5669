import SnippetCheck.Proofs.Reading.Expression
import SnippetCheck.Proofs.Reading.Failure
import SnippetCheck.Proofs.Reading.Loops

namespace SnippetCheck.Grammar

open Reader

section Bodies

variable {free : Nat} {inner : Reader Node}

theorem block_realizes (inside : inner.Realizes free .statement ([·])) (loud : inner.Loud)
    (ending : Ending) : Realizes (block ending.stops inner) free (.body ending) id := by
  intro tokens body rest faults yields
  obtain ⟨result, rfl, rfl⟩ := yields
  fun_induction block ending.stops inner tokens generalizing body with
  | case1 =>
    obtain rfl := Option.some.inj result
    exact .bodyEnd rfl
  | case2 token rest stops =>
    obtain rfl := Option.some.inj result
    exact .bodyEnd (by simpa using stops)
  | case3 token rest goesOn first =>
    rename_i failure
    obtain rfl := Option.some.inj result
    exact .brokenBody first.suffix (loud _ failure)
  | case4 token rest goesOn first node success shorter others =>
    rename_i ih _
    obtain ⟨later, atLater, rfl⟩ := Option.map_eq_some_iff.mp result
    exact .bodyStatement (by simpa using goesOn) (inside (yields_of_result success)) (ih atLater)
  | case5 token rest goesOn first node success =>
    rename_i longer
    exact absurd ((inside (yields_of_result success)).rest_length.2 rfl) longer

end Bodies

section Statements

variable {free : Nat} {inner inside : Reader Node}

theorem attempt_name_realizes (what : String) :
    (Reader.name what).attempt.Realizes free .parameter (·.toList.map parameter) := by
  intro tokens found rest faults yields
  rcases yields_attempt_expect yields with
    ⟨token, rfl, rfl, identifier, rfl⟩ | ⟨rfl, rfl, -, missing⟩
  · exact .parameter (by simpa using identifier)
  · exact .missingParameter missing

theorem flatMap_parameter (found : List (Option Token)) :
    found.flatMap (·.toList.map parameter) = (found.filterMap id).map parameter := by
  induction found with
  | nil => rfl
  | cons first others ih => cases first <;> simp [ih]

theorem functionDef_realizes
    (blocks : ∀ ending, Realizes (block ending.stops inner) free (.body ending) id)
    {keyword : Token} {tokens rest : List Token} {node : Node} {faults : List Diagnostic}
    (isDef : keyword.isKeyword "def")
    (yields : (functionDef inner).Yields (keyword :: tokens) node rest faults) :
    Reads (free + 1) .statement (keyword :: tokens) [node] rest faults := by
  simp only [functionDef, Reader.name, symbol, yields_skip_bind, yields_expect_bind,
    List.tail_cons, beq_iff_eq] at yields
  obtain ⟨name, _, rfl, identifier, opening, _, rfl, opens, yields⟩ := yields
  rw [yields_bind] at yields
  obtain ⟨found, _, before, _, signature, yields, rfl⟩ := yields
  simp only [yields_expect_bind] at yields
  obtain ⟨closing, _, rfl, closes, colon, _, rfl, isColon, yields⟩ := yields
  replace yields := yields_bind.mp yields
  obtain ⟨body, _, after, _, statements, yields, rfl⟩ := yields
  obtain ⟨rfl, rfl, rfl⟩ := yields_pure.mp yields
  have parameters : Reads free (.list .parameter) _ _ _ _ :=
    commaSeparated_realizes (attempt_name_realizes _) signature
  simp only [flatMap_parameter] at parameters
  simpa using Reads.definition isDef identifier opens parameters closes isColon
    (blocks .atDef statements)

theorem ifStatement_realizes
    (blocks : ∀ ending, Realizes (block ending.stops inner) free (.body ending) id)
    (expressions : inside.Realizes free .expression ([·]))
    {keyword : Token} {tokens rest : List Token} {node : Node} {faults : List Diagnostic}
    (isIf : keyword.isKeyword "if")
    (yields : (ifStatement inner inside keyword).Yields (keyword :: tokens) node rest faults) :
    Reads (free + 1) .statement (keyword :: tokens) [node] rest faults := by
  simp only [ifStatement, symbol, yields_skip_bind, List.tail_cons] at yields
  rw [yields_bind] at yields
  obtain ⟨condition, _, before, _, test, yields, rfl⟩ := yields
  simp only [yields_expect_bind] at yields
  obtain ⟨colon, _, rfl, isColon, yields⟩ := yields
  replace yields := yields_bind.mp yields
  obtain ⟨body, middle, between, _, first, yields, rfl⟩ := yields
  simp only [yields_next_bind] at yields
  split at yields
  · next more =>
    cases middle with
    | nil => simp at more
    | cons other middle =>
      simp only [yields_skip_bind, yields_expect_bind, List.tail_cons] at yields
      obtain ⟨colon', _, rfl, isColon', yields⟩ := yields
      replace yields := yields_bind.mp yields
      obtain ⟨body', _, after, _, second, yields, rfl⟩ := yields
      obtain ⟨rfl, rfl, rfl⟩ := yields_pure.mp yields
      simpa using Reads.alternative isIf (expressions test) isColon (blocks .atElse first) more
        isColon' (blocks .atDef second)
  · next alone =>
    obtain ⟨rfl, rfl, rfl⟩ := yields_pure.mp yields
    simpa using Reads.conditional isIf (expressions test) isColon (blocks .atElse first)
      (by simpa using alone)

theorem returnStatement_realizes (expressions : inside.Realizes free .expression ([·]))
    {keyword : Token} {tokens rest : List Token} {node : Node} {faults : List Diagnostic}
    (isReturn : keyword.isKeyword "return")
    (yields : (returnStatement inside keyword).Yields (keyword :: tokens) node rest faults) :
    Reads (free + 1) .statement (keyword :: tokens) [node] rest faults := by
  simp only [returnStatement, yields_skip_bind, yields_next_bind, List.tail_cons] at yields
  split at yields
  · next more =>
    rw [yields_bind] at yields
    obtain ⟨value, _, before, _, expression, yields, rfl⟩ := yields
    obtain ⟨rfl, rfl, rfl⟩ := yields_pure.mp yields
    simpa using Reads.returnValue isReturn more (expressions expression)
  · next alone =>
    obtain ⟨rfl, rfl, rfl⟩ := yields_pure.mp yields
    exact .bareReturn isReturn (by simpa using alone)

theorem statementOf_realizes
    (blocks : ∀ ending, Realizes (block ending.stops inner) free (.body ending) id)
    (expressions : inside.Realizes free .expression ([·])) :
    (statementOf inner inside).Realizes (free + 1) .statement ([·]) := by
  intro tokens node rest faults yields
  simp only [statementOf, yields_peek_bind] at yields
  cases tokens with
  | nil => exact .expression (expressions yields)
  | cons token tokens =>
    simp only [List.head?_cons] at yields
    split at yields
    · next isDef => exact functionDef_realizes blocks isDef yields
    split at yields
    · next isIf => exact ifStatement_realizes blocks expressions isIf yields
    split at yields
    · next isReturn => exact returnStatement_realizes expressions isReturn yields
    simp only [yields_second_bind] at yields
    split at yields
    · next equals =>
      rw [Bool.and_eq_true, beq_iff_eq] at equals
      cases tokens with
      | nil => simp at equals
      | cons sign tokens =>
        simp only [assignment, yields_skip_bind, List.tail_cons] at yields
        rw [yields_bind] at yields
        obtain ⟨value, _, before, _, expression, yields, rfl⟩ := yields
        obtain ⟨rfl, rfl, rfl⟩ := yields_pure.mp yields
        simpa using Reads.assignment equals.1 equals.2 (expressions expression)
    · exact .expression (expressions yields)

theorem statement_realizes (lastLine : UInt32) (free : Nat) :
    Realizes (statement lastLine free) free .statement ([·]) := by
  induction free with
  | zero =>
    intro tokens node rest faults yields
    exact (yields_fail.mp yields).elim
  | succ free ih =>
    exact statementOf_realizes (block_realizes ih (statement_loud lastLine free))
      (expression_realizes lastLine free)

/-- A statement takes a token at least. -/
theorem statement_shorter {lastLine : UInt32} {free : Nat} {tokens : List Token} {node : Node}
    (found : (statement lastLine free tokens).result = some node) :
    (statement lastLine free tokens).rest.length < tokens.length :=
  (statement_realizes lastLine free (yields_of_result found)).rest_length.2 rfl

end Statements

/-- Every run over a whole token list is accounted for, whatever the tokens are. -/
theorem statements_reads (lastLine : UInt32) (free : Nat) (tokens : List Token) :
    ReadsProgram free tokens (statements (statement lastLine free) tokens).1
      (statements (statement lastLine free) tokens).2 := by
  cases tokens with
  | nil =>
    rw [statements_nil]
    exact .done
  | cons token rest =>
    have others := statements_reads lastLine free (resumption (statement lastLine free) token rest)
    rw [statements_cons]
    cases result : (statement lastLine free (token :: rest)).result with
    | some node =>
      rw [resumption_eq_rest (statement_shorter result)] at others ⊢
      exact .statement (statement_realizes lastLine free (yields_of_result result)) others
    | none =>
      exact .failure (resumption_suffix _ token rest) (statement_loud lastLine free _ result) others
termination_by tokens.length
decreasing_by exact Nat.lt_succ_of_le (resumption_suffix _ token rest).length_le

end SnippetCheck.Grammar

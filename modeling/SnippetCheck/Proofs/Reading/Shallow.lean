import SnippetCheck.Proofs.Reading.Gives
import SnippetCheck.Proofs.Reading.Shows
import SnippetCheck.Proofs.Tree.Provenance

namespace SnippetCheck

namespace Node

mutual
/-- A tree has at least as many nodes as levels. -/
theorem height_le_count : (node : Node) → node.height ≤ node.count
  | mk _ _ _ children => Nat.succ_le_succ (heightOfAll_le_countAll children)

theorem heightOfAll_le_countAll : (nodes : List Node) → heightOfAll nodes ≤ countAll nodes
  | [] => Nat.le_refl 0
  | node :: rest => by
    have first := height_le_count node
    have others := heightOfAll_le_countAll rest
    rw [heightOfAll, countAll]
    omega
end

end Node

section Structure

theorem Brackets.step_error {fault : Diagnostic} {opened : List OpenBracket} {token : Token}
    (failed : step opened token = .error fault) (line : UInt32) : fault ≠ .nestingTooDeep line := by
  rintro rfl
  simp only [step] at failed
  split at failed
  · split at failed
    · cases failed
    · split at failed
      · cases failed
      · cases failed
      · split at failed <;> cases failed
  · cases failed

theorem Brackets.foldlM_error {fault : Diagnostic} {opened : List OpenBracket} {tokens : List Token}
    (failed : tokens.foldlM step opened = .error fault) (line : UInt32) :
    fault ≠ .nestingTooDeep line := by
  induction tokens generalizing opened with
  | nil => cases failed
  | cons token rest ih =>
    rw [List.foldlM_cons] at failed
    cases next : step opened token with
    | error fault' =>
      rw [next] at failed
      obtain rfl : fault' = fault := Except.error.inj failed
      exact step_error next line
    | ok opened' =>
      rw [next] at failed
      exact ih failed

/-- Brackets may be nested as deep as they like. -/
theorem Brackets.nestingTooDeep_notMem_check (tokens : List Token) (line : UInt32) :
    .nestingTooDeep line ∉ check tokens := by
  intro member
  rw [check] at member
  split at member
  · next fault failed => exact foldlM_error failed line (List.mem_singleton.mp member).symm
  · rw [leftOpen] at member
    split at member
    · cases member
    · cases List.mem_singleton.mp member

theorem Signatures.fault_ne_nestingTooDeep (place line : UInt32) (tokens : List Token) :
    fault place tokens ≠ some (.nestingTooDeep line) := by
  fun_cases fault place tokens <;> nofun

/-- Signatures are never too deep. -/
theorem Signatures.nestingTooDeep_notMem_check (tokens : List Token) (line : UInt32) :
    .nestingTooDeep line ∉ check tokens := by
  induction tokens with
  | nil => exact List.not_mem_nil
  | cons token rest ih =>
    rw [check, List.mem_append, not_or]
    refine ⟨?_, ih⟩
    split
    · exact fun member => fault_ne_nestingTooDeep _ _ _ (Option.mem_toList.mp member)
    · exact List.not_mem_nil

/-- What the structure shows has nothing to do with nesting. -/
theorem nestingTooDeep_notMem_structuralFaults (tokens : List Token) (line : UInt32) :
    .nestingTooDeep line ∉ structuralFaults tokens := by
  rw [structuralFaults, List.mem_append, not_or]
  exact ⟨Brackets.nestingTooDeep_notMem_check tokens line,
    Signatures.nestingTooDeep_notMem_check tokens line⟩

end Structure

namespace Grammar

open Reader

/-- The bound on nesting has not been met. -/
def Shallow (_ : Bool) (faults : List Diagnostic) : Prop :=
  ∀ line, .nestingTooDeep line ∉ faults

theorem shallow_composes : Composes Shallow where
  silent _ := List.not_mem_nil
  single other line member := other line (List.mem_singleton.mp member).symm
  append first second line member :=
    (List.mem_append.mp member).elim (first line) (second line)

theorem shallow_forgives : Forgives Shallow :=
  fun _ shallow => shallow

variable {free : Nat} {tokens rest : List Token}

/-- No tree has more levels than tokens were taken for it. -/
theorem Reads.height_le {phrase : Phrase} {node : Node} {faults : List Diagnostic}
    (reads : Reads free phrase tokens [node] rest faults) :
    node.height + rest.length ≤ tokens.length := by
  obtain ⟨taken, kept, rfl, keeps⟩ := reads.accounts
  have levels := node.height_le_count
  have count : node.count + 0 = kept.length := keeps.count
  have taken := keeps.sublist.length_le
  rw [List.length_append]
  omega

section Expressions

variable {operand : Reader Node}

/-- The tree on the left and the tokens that are left fit into the free levels together, and stay
so with every operator: its sign goes for the level that the tree gains. -/
theorem chainFrom_shallow {level : Level} (realizes : operand.Realizes free level.operand ([·]))
    (operands : operand.Shows Shallow (free + 1)) {left : Node} {height : Option Nat}
    (carried : height.getD left.height = left.height)
    (fits : left.height + tokens.length ≤ free) :
    (chainFrom free level.signs operand left height tokens).Shows Shallow := by
  fun_induction chainFrom free level.signs operand left height tokens with
  | case1 => exact shallow_composes.silent
  | case2 left height sign rest isSign right suffix failed =>
    rw [List.length_cons] at fits
    exact (operands rest (by omega)).of_none failed
  | case3 left height sign rest isSign right suffix node found below tight =>
    have levels : node.height + right.rest.length ≤ rest.length :=
      (realizes (yields_of_result found)).height_le
    rw [List.length_cons] at fits
    simp only [below, carried] at tight
    omega
  | case4 left height sign rest isSign right suffix node found below room others =>
    rename_i ih _
    have levels : node.height + right.rest.length ≤ rest.length :=
      (realizes (yields_of_result found)).height_le
    have grown : (Node.binary sign.text sign.line left node).height = below + 1 := by
      rw [Node.height_binary]
      simp only [below, carried]
    rw [List.length_cons] at fits
    have later : others.Shows Shallow := by
      refine ih grown.symm ?_
      rw [grown]
      simp only [below, carried]
      omega
    exact shallow_composes.append ((operands rest (by omega)).of_some found) later
  | case5 => exact shallow_composes.silent

theorem chain_shallow {level : Level} (realizes : operand.Realizes free level.operand ([·]))
    (operands : operand.Shows Shallow (free + 1)) :
    (chain free level.signs operand).Shows Shallow (free + 1) := by
  intro tokens fits
  refine shallow_composes.bind (operands tokens fits) fun first found => ?_
  have levels := (realizes (yields_of_result found)).height_le
  exact chainFrom_shallow realizes operands rfl (by omega)

/-- An expression of fewer tokens than free levels is not nested too deep, since every level takes
a token. -/
theorem expression_shallow (lastLine : UInt32) (free : Nat) :
    Reader.Shows Shallow free (expression lastLine free) := by
  induction free with
  | zero => exact fun tokens fits => absurd fits (Nat.not_lt_zero _)
  | succ free ih =>
    have factors := factor_realizes (expression_realizes lastLine free)
    have terms := @chain_realizes free .product _ factors
    refine shallow_composes.shows_comparison ?_
    exact @chain_shallow free _ .sum terms
      (@chain_shallow free _ .product factors (shallow_composes.shows_factor ih))

end Expressions

/-- A statement of few tokens is not too deep, whatever it begins with. -/
theorem statement_shallow (lastLine : UInt32) (free : Nat) :
    Reader.Shows Shallow free (statement lastLine (free + 1)) := by
  induction free with
  | zero => exact fun tokens fits => absurd fits (Nat.not_lt_zero _)
  | succ free ih =>
    exact shallow_composes.shows_statementOf shallow_forgives ih
      (expression_shallow lastLine (free + 1))

section Parentheses

theorem chain_tooDeep {operators : List String} {operand : Reader Node}
    (deep : (operand tokens).TooDeep) : (chain free operators operand tokens).TooDeep :=
  tooDeep_bind _ deep

/-- Behind an opening parenthesis the inner expression decides. -/
theorem factor_tooDeep {inner : Reader Node} {token : Token} (opens : token.isSymbol "(" = true)
    (deep : (inner rest).TooDeep) : (factor inner (token :: rest)).TooDeep := by
  have kind := Token.kind_of_isSymbol opens
  have noKeyword := Token.not_isKeyword_of_isSymbol opens "print"
  rw [factor, peek_bind]
  simp only [List.head?_cons, kind, reduceCtorEq, if_false]
  rw [second_bind]
  simp only [noKeyword, Bool.false_and, Bool.false_eq_true, if_false, opens, if_true]
  have nested : ((do
      let node ← inner
      let _ ← symbol ")"
      return node : Reader Node) rest).TooDeep := tooDeep_bind _ deep
  exact nested

/-- As many opening parentheses as there are free levels are too many. -/
theorem expression_tooDeep {lastLine : UInt32} {opened : List Token}
    (parentheses : ∀ token ∈ opened, token.isSymbol "(" = true) (rest : List Token) :
    (expression lastLine opened.length (opened ++ rest)).TooDeep := by
  induction opened with
  | nil => exact ⟨_, List.mem_singleton_self _⟩
  | cons token opened ih =>
    rw [List.forall_mem_cons] at parentheses
    exact tooDeep_bind _ (chain_tooDeep (chain_tooDeep
      (factor_tooDeep parentheses.1 (ih parentheses.2))))

theorem statementOf_tooDeep {inner inside : Reader Node} {token : Token}
    (opens : token.isSymbol "(" = true) (deep : (inside (token :: rest)).TooDeep) :
    (statementOf inner inside (token :: rest)).TooDeep := by
  have kind : (token.kind == .identifier) = false := by simp [Token.kind_of_isSymbol opens]
  rw [statementOf, peek_bind]
  simp only [List.head?_cons, Token.not_isKeyword_of_isSymbol opens, Bool.false_eq_true, if_false]
  rw [second_bind]
  simpa only [kind, Bool.false_and, Bool.false_eq_true, if_false] using deep

end Parentheses

/-- A program of fewer tokens than the bound on nesting less one does not meet it. As many opening
parentheses do. -/
theorem shallow_of_short :
    (∀ tokens, (significantTokens tokens).length < maxNestingDepth - 1 →
      ∀ line, .nestingTooDeep line ∉ (parse tokens).2) ∧
    ∀ tokens, maxNestingDepth - 1 ≤ (significantTokens tokens).length →
      (∀ token ∈ (significantTokens tokens).take (maxNestingDepth - 1),
        token.isSymbol "(" = true) →
      ∃ line, .nestingTooDeep line ∈ (parse tokens).2 := by
  refine ⟨fun tokens short line => ?_, fun tokens long parentheses => ?_⟩
  · rw [parse]
    split
    · nofun
    · next token rest significant =>
      rw [significant] at short
      rw [List.mem_append, not_or]
      exact ⟨nestingTooDeep_notMem_structuralFaults _ line,
        shallow_composes.shows_statements shallow_forgives (statement_shallow _ _) _ short line⟩
  · obtain ⟨token, rest, significant⟩ := List.exists_cons_of_length_pos
      (Nat.lt_of_lt_of_le (by decide : 0 < maxNestingDepth - 1) long)
    rw [significant] at long parentheses
    have nested := @expression_tooDeep (lastLine (token :: rest)) _ parentheses
      ((token :: rest).drop (maxNestingDepth - 1))
    rw [List.take_append_drop, List.length_take_of_le long] at nested
    have first : (statement (lastLine (token :: rest)) maxNestingDepth (token :: rest)).TooDeep :=
      statementOf_tooDeep (parentheses token (List.mem_cons_self ..)) nested
    obtain ⟨line, member⟩ := first
    refine ⟨line, descend_faults_subset ?_⟩
    rw [significant, descend, statements_cons]
    exact List.mem_append_left _ member

/-- With one parenthesis more the bound is reached. -/
theorem shallow_of_short_parentheses :
    (significantTokens (List.replicate 254 ⟨.symbol, "(", 1, 1⟩)).length < maxNestingDepth - 1 ∧
    (∀ line, .nestingTooDeep line ∉ (parse (List.replicate 254 ⟨.symbol, "(", 1, 1⟩)).2) ∧
    maxNestingDepth - 1 ≤ (significantTokens (List.replicate 255 ⟨.symbol, "(", 1, 1⟩)).length ∧
    (∀ token ∈ (significantTokens (List.replicate 255 ⟨.symbol, "(", 1, 1⟩)).take
      (maxNestingDepth - 1), token.isSymbol "(" = true) ∧
    ∃ line, .nestingTooDeep line ∈ (parse (List.replicate 255 ⟨.symbol, "(", 1, 1⟩)).2 := by
  have short : (significantTokens (List.replicate 254 ⟨.symbol, "(", 1, 1⟩)).length <
      maxNestingDepth - 1 := by decide +kernel
  have long : maxNestingDepth - 1 ≤
      (significantTokens (List.replicate 255 ⟨.symbol, "(", 1, 1⟩)).length := by decide +kernel
  have parentheses : ∀ token ∈ (significantTokens (List.replicate 255 ⟨.symbol, "(", 1, 1⟩)).take
      (maxNestingDepth - 1), token.isSymbol "(" = true := by decide +kernel
  exact ⟨short, shallow_of_short.1 _ short, long, parentheses,
    shallow_of_short.2 _ long parentheses⟩

end Grammar
end SnippetCheck

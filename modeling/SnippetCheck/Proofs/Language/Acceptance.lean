import SnippetCheck.Proofs.Language.Completeness
import SnippetCheck.Proofs.Language.Soundness
import SnippetCheck.Proofs.Language.Structure
import SnippetCheck.Token.Lexer

namespace SnippetCheck.Grammar

/-- The tree of a program: the statements in order under one root. -/
def Program.Tree (tokens : List Token) (tree : Node) : Prop :=
  ∃ trees, Program tokens trees ∧ tree = .program trees

theorem descend_program {tokens : List Token} (nonempty : tokens ≠ [])
    (silent : (descend tokens).2 = []) : Program tokens (descend tokens).1 :=
  (statements_reads _ _ tokens).program silent nonempty

/-- A descent without faults leaves nothing for the structural checks to find. -/
theorem descend_structural {tokens : List Token} (nonempty : tokens ≠ [])
    (silent : (descend tokens).2 = []) : structuralFaults tokens = [] :=
  (descend_program nonempty silent).structuralFaults_eq_nil

/-- One step of the descent over a program: the first statement is read and the rest is left. -/
theorem statements_of_gives {reader : Reader Node} {token : Token} {tokens rest : List Token}
    {node : Node} (shorter : ∀ node, (reader (token :: tokens)).result = some node →
      (reader (token :: tokens)).rest.length < (token :: tokens).length)
    (given : reader.Gives (token :: tokens) node rest) :
    (statements reader (token :: tokens) =
      (node :: (statements reader rest).1, (statements reader rest).2)) ∨
    ∃ line, .nestingTooDeep line ∈ (statements reader (token :: tokens)).2 := by
  rw [statements_cons]
  rcases given with ⟨result, rfl, silent⟩ | ⟨line, member⟩
  · left
    rw [resumption_eq_rest (shorter node result), result, silent]
    rfl
  · right
    exact ⟨line, List.mem_append_left _ member⟩

theorem Program.statements {tokens : List Token} {trees : List Node}
    (program : Program tokens trees) (lastLine : UInt32) (free : Nat) :
    Grammar.statements (statement lastLine free) tokens = (trees, []) ∨
      ∃ line, .nestingTooDeep line ∈ (Grammar.statements (statement lastLine free) tokens).2 := by
  have step {tokens rest : List Token} {node : Node} (derived : Derives .statement tokens [node] rest)
      (settled : Settled rest) :
      (Grammar.statements (statement lastLine free) tokens =
        (node :: (Grammar.statements (statement lastLine free) rest).1,
          (Grammar.statements (statement lastLine free) rest).2)) ∨
      ∃ line, .nestingTooDeep line ∈ (Grammar.statements (statement lastLine free) tokens).2 := by
    obtain ⟨token, more, rfl, -⟩ := derived.statement_starts
    exact statements_of_gives (fun _ => statement_shorter)
      (derived.found settled lastLine free node rfl)
  induction program with
  | last only =>
    rcases step only rfl with same | deep
    · exact .inl (by rw [same, statements_nil])
    · exact .inr deep
  | next first others ih =>
    rcases step first others.settled with same | deep
    · rcases ih with same' | ⟨line, member⟩
      · exact .inl (by rw [same, same'])
      · exact .inr ⟨line, by rw [same]; exact member⟩
    · exact .inr deep

theorem valid_iff {tokens : List Token} :
    (TreeReport.ofTokens tokens).valid = true ↔
      significantTokens tokens ≠ [] ∧ (descend (significantTokens tokens)).2 = [] := by
  simp only [TreeReport.ofTokens, parse]
  cases atHead : significantTokens tokens with
  | nil => simp
  | cons token rest =>
    simp only [List.isEmpty_iff, List.append_eq_nil_iff, ne_eq, reduceCtorEq, not_false_eq_true,
      true_and, and_iff_right_iff_imp]
    exact descend_structural (by simp)

theorem tree_eq_descend {tokens : List Token} :
    (TreeReport.ofTokens tokens).tree = .program (descend (significantTokens tokens)).1 := by
  simp only [TreeReport.ofTokens, parse]
  cases atHead : significantTokens tokens with
  | nil => simp [descend, statements_nil]
  | cons token rest => rfl

theorem descend_faults_subset {tokens : List Token} :
    (descend (significantTokens tokens)).2 ⊆ (parse tokens).2 := by
  simp only [parse]
  cases atHead : significantTokens tokens with
  | nil => simp [descend, statements_nil]
  | cons token rest => exact List.subset_append_right _ _

/-- Unless the bound on nesting is met, the tokens that are accepted are exactly the programs of
the grammar, and the tree that is built is the only one they have. -/
theorem valid_iff_program (tokens : List Token)
    (shallow : ∀ line, .nestingTooDeep line ∉ (parse tokens).2) :
    ((TreeReport.ofTokens tokens).valid = true ↔
      ∃ tree, Program.Tree (significantTokens tokens) tree) ∧
    ∀ tree, Program.Tree (significantTokens tokens) tree →
      (TreeReport.ofTokens tokens).tree = tree := by
  have complete {tree : Node} (program : Program.Tree (significantTokens tokens) tree) :
      (TreeReport.ofTokens tokens).valid = true ∧ (TreeReport.ofTokens tokens).tree = tree := by
    obtain ⟨trees, program, rfl⟩ := program
    have nonempty : significantTokens tokens ≠ [] := by
      rintro none
      rw [none] at program
      cases program with
      | last only => obtain ⟨_, _, absurd, _⟩ := only.statement_starts; cases absurd
      | next first => obtain ⟨_, _, absurd, _⟩ := first.statement_starts; cases absurd
    rcases program.statements (lastLine (significantTokens tokens)) maxNestingDepth with
      same | ⟨line, member⟩
    · rw [valid_iff, tree_eq_descend, descend, same]
      exact ⟨⟨nonempty, rfl⟩, rfl⟩
    · exact absurd (descend_faults_subset member) (shallow line)
  refine ⟨⟨fun valid => ?_, fun ⟨tree, program⟩ => (complete program).1⟩,
    fun tree program => (complete program).2⟩
  obtain ⟨nonempty, silent⟩ := valid_iff.mp valid
  exact ⟨_, _, descend_program nonempty silent, rfl⟩

/-- A conditional with a call and a bare `return`, nested far less deep than the bound. -/
def conditionalSource : String :=
  "if a < 1 + 2 * b:\n  f(x, 3)\nelse:\n  return # done"

theorem valid_iff_program_conditional :
    (∀ line, .nestingTooDeep line ∉ (parse (tokenize conditionalSource)).2) ∧
    ((TreeReport.ofTokens (tokenize conditionalSource)).valid = true ↔
      ∃ tree, Program.Tree (significantTokens (tokenize conditionalSource)) tree) ∧
    ∀ tree, Program.Tree (significantTokens (tokenize conditionalSource)) tree →
      (TreeReport.ofTokens (tokenize conditionalSource)).tree = tree := by
  have silent : (parse (tokenize conditionalSource)).2 = [] := by decide +kernel
  have shallow : ∀ line, .nestingTooDeep line ∉ (parse (tokenize conditionalSource)).2 := by
    simp [silent]
  exact ⟨shallow, valid_iff_program _ shallow⟩

end SnippetCheck.Grammar

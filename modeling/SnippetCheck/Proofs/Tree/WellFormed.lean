import SnippetCheck.Tree.Visit
import SnippetCheck.Proofs.Language.Acceptance
import SnippetCheck.Proofs.Symbol.Log

namespace SnippetCheck

/-- Which kind of node may stand directly below which: a definition only below a root, a parameter
only below a definition, and a root below none. -/
def NodeKind.MayHold (parent : NodeKind) : NodeKind → Prop
  | program => False
  | functionDef => parent = program
  | parameter => parent = functionDef
  | _ => True

/-- Common nodes may stand below any other. -/
theorem NodeKind.mayHold_of_isCommon {child : NodeKind} (common : child.isCommon = true)
    (parent : NodeKind) : parent.MayHold child := by
  cases child <;> simp_all [isCommon, MayHold]

namespace Node

/-- Every node of a tree stands where its kind may stand. -/
def IsOrderly (tree : Node) : Prop :=
  ∀ node ∈ tree.preOrder, ∀ child ∈ node.children, node.kind.MayHold child.kind

/-- A node is orderly if it holds what it may and all below it is orderly. -/
theorem isOrderly_mk {kind : NodeKind} (value : String) (line : UInt32) {children : List Node}
    (held : ∀ child ∈ children, kind.MayHold child.kind)
    (each : ∀ child ∈ children, child.IsOrderly) : IsOrderly (.mk kind value line children) := by
  intro node member
  rw [preOrder, preOrderOfAll_eq_flatMap] at member
  rcases List.mem_cons.mp member with rfl | below
  · exact held
  · obtain ⟨child, isChild, within⟩ := List.mem_flatMap.mp below
    exact each child isChild node within

theorem isOrderly_leaf (kind : NodeKind) (value : String) (line : UInt32) :
    (leaf kind value line).IsOrderly :=
  isOrderly_mk value line (by simp) (by simp)

theorem IsExpression.isOrderly {tree : Node} (shape : tree.IsExpression) : tree.IsOrderly := by
  induction shape with
  | number => exact isOrderly_leaf _ _ _
  | string => exact isOrderly_leaf _ _ _
  | name => exact isOrderly_leaf _ _ _
  | call callee line arguments ih =>
    exact isOrderly_mk _ _ (fun argument member =>
      NodeKind.mayHold_of_isCommon (arguments argument member).isCommon _) ih
  | operation line isSign left right ih ih' =>
    refine isOrderly_mk _ _ ?_ (by simpa using ⟨ih, ih'⟩)
    simpa using ⟨NodeKind.mayHold_of_isCommon left.isCommon _,
      NodeKind.mayHold_of_isCommon right.isCommon _⟩

theorem isOrderly_of_value {kind : NodeKind} (text : String) (line : UInt32) {value : Node}
    (shape : value.IsExpression) : IsOrderly (.mk kind text line [value]) := by
  refine isOrderly_mk _ _ ?_ (by simpa using shape.isOrderly)
  simpa using NodeKind.mayHold_of_isCommon shape.isCommon _

theorem IsStatement.isOrderly {tree : Node} (shape : tree.IsStatement) : tree.IsOrderly := by
  induction shape with
  | expression value => exact value.isOrderly
  | conditional line condition body ih =>
    refine isOrderly_mk _ _ ?_ (List.forall_mem_cons.mpr ⟨condition.isOrderly, ih⟩)
    exact List.forall_mem_cons.mpr ⟨NodeKind.mayHold_of_isCommon condition.isCommon _,
      fun statement member => NodeKind.mayHold_of_isCommon (body statement member).isCommon _⟩
  | bareReturn => exact isOrderly_leaf _ _ _
  | returnValue _ value => exact isOrderly_of_value _ _ value
  | assignment _ _ value => exact isOrderly_of_value _ _ value

theorem IsDefinition.isOrderly {tree : Node} (shape : tree.IsDefinition) : tree.IsOrderly := by
  obtain ⟨name, line, parameters, body⟩ := shape
  refine isOrderly_mk _ _ ?_ ?_
  · intro child member
    rcases List.mem_append.mp member with declared | statement
    · obtain ⟨-, -⟩ := parameters child declared
      rfl
    · exact NodeKind.mayHold_of_isCommon (body child statement).isCommon _
  · intro child member
    rcases List.mem_append.mp member with declared | statement
    · obtain ⟨-, -⟩ := parameters child declared
      exact isOrderly_leaf _ _ _
    · exact (body child statement).isOrderly

theorem IsDefinition.kind_eq {tree : Node} (shape : tree.IsDefinition) :
    tree.kind = .functionDef := by
  cases shape
  rfl

/-- Programs are orderly from the root down. -/
theorem IsProgram.isOrderly {tree : Node} (shape : tree.IsProgram) : tree.IsOrderly := by
  obtain ⟨kind, value, line, children⟩ := tree
  obtain rfl : kind = .program := shape.root
  refine isOrderly_mk _ _ ?_ fun child member =>
    (shape.children child member).elim IsDefinition.isOrderly IsStatement.isOrderly
  intro child member
  rcases shape.children child member with definition | statement
  · rw [definition.kind_eq]
    rfl
  · exact NodeKind.mayHold_of_isCommon statement.isCommon _

end Node

namespace Grammar

/-- The tree is that of a program whatever the tokens are. -/
theorem isProgram_ofTokens (tokens : List Token) :
    (TreeReport.ofTokens tokens).tree.IsProgram := by
  rw [tree_eq_descend]
  exact ⟨rfl, (statements_reads _ _ _).admits⟩

/-- The tree of any token list, with faults or without, is made of definitions and statements of
the right shape. So definitions lie directly below the root, and the scopes that are recorded,
of current symbols and in the log, are the global one and those directly inside it. -/
theorem tree_isProgram (tokens : List Token) :
    (TreeReport.ofTokens tokens).tree.IsProgram ∧
      (TreeReport.ofTokens tokens).tree.IsOrderly ∧
      ∀ symbol, symbol ∈ (collectSymbols (TreeReport.ofTokens tokens).tree).table.current ∨
          symbol ∈ (collectSymbols (TreeReport.ofTokens tokens).tree).table.definitions →
        symbol.scope = globalScope ∨
          ∃ function ∈ (TreeReport.ofTokens tokens).tree.children,
            function.kind = .functionDef ∧
              symbol.scope = innerScope globalScope function.value := by
  have shape := isProgram_ofTokens tokens
  refine ⟨shape, shape.isOrderly, fun symbol recorded => ?_⟩
  have member := recorded.elim (logged_collectSymbols _ symbol) id
  rw [shape.definitions] at member
  obtain ⟨child, isChild, within⟩ := List.mem_flatMap.mp member
  exact (Node.symbols_scope within).imp_right fun inner => ⟨child, isChild, inner⟩

end Grammar
end SnippetCheck

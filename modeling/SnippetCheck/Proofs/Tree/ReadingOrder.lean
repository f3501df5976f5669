import SnippetCheck.Tree.Visit
import SnippetCheck.Token.Basic
import SnippetCheck.Tree.Worklist

namespace SnippetCheck

namespace Node

mutual
/-- The nodes in the order in which their own tokens stand in the text: an operator behind its
left operand, any other node before its children. A root has no token of its own. -/
def readingOrder : Node → List Node
  | mk .program _ _ children => readingOrderOfAll children
  | mk .binaryOp value line (left :: right) =>
    left.readingOrder ++ mk .binaryOp value line (left :: right) :: readingOrderOfAll right
  | mk kind value line children => mk kind value line children :: readingOrderOfAll children

def readingOrderOfAll : List Node → List Node
  | [] => []
  | node :: rest => node.readingOrder ++ readingOrderOfAll rest
end

theorem readingOrderOfAll_append (a b : List Node) :
    readingOrderOfAll (a ++ b) = readingOrderOfAll a ++ readingOrderOfAll b := by
  induction a with
  | nil => rfl
  | cons node rest ih => simp only [List.cons_append, readingOrderOfAll, ih, List.append_assoc]

theorem readingOrder_program (statements : List Node) :
    (program statements).readingOrder = readingOrderOfAll statements := by
  simp [program, readingOrder]

/-- An operation stands between its operands, where its sign is. -/
theorem readingOrder_binary (operator : String) (line : UInt32) (left right : Node) :
    (binary operator line left right).readingOrder =
      left.readingOrder ++ binary operator line left right :: right.readingOrder := by
  simp [binary, readingOrder, readingOrderOfAll]

/-- Any other node stands before its children. -/
theorem readingOrder_before_children {kind : NodeKind} (noRoot : kind ≠ .program)
    (prefixed : kind ≠ .binaryOp) (value : String) (line : UInt32) (children : List Node) :
    (mk kind value line children).readingOrder =
      mk kind value line children :: readingOrderOfAll children := by
  cases kind <;> simp_all [readingOrder]

theorem preOrderOfAll_eq_flatMap (nodes : List Node) :
    preOrderOfAll nodes = nodes.flatMap preOrder := by
  induction nodes with
  | nil => rfl
  | cons node rest ih => rw [preOrderOfAll, ih, List.flatMap_cons]

theorem self_mem_preOrder (node : Node) : node ∈ node.preOrder := by
  cases node
  exact List.mem_cons_self

mutual
/-- With a node, a tree holds the children of the node. -/
theorem mem_preOrder_of_child {node child : Node} (below : child ∈ node.children) (tree : Node)
    (member : node ∈ tree.preOrder) : child ∈ tree.preOrder := by
  match tree with
  | mk kind value line children =>
    rw [preOrder] at member ⊢
    refine List.mem_cons_of_mem _ ?_
    rcases List.mem_cons.mp member with rfl | within
    · rw [preOrderOfAll_eq_flatMap]
      exact List.mem_flatMap.mpr ⟨child, below, child.self_mem_preOrder⟩
    · exact mem_preOrderOfAll_of_child below children within

/-- What hangs below a node of some trees is a node of them. -/
theorem mem_preOrderOfAll_of_child {node child : Node} (below : child ∈ node.children)
    (trees : List Node) (member : node ∈ preOrderOfAll trees) : child ∈ preOrderOfAll trees := by
  match trees with
  | [] => simp [preOrderOfAll] at member
  | tree :: rest =>
    rw [preOrderOfAll] at member ⊢
    exact List.mem_append.mpr ((List.mem_append.mp member).imp
      (mem_preOrder_of_child below tree) (mem_preOrderOfAll_of_child below rest))
end

section PreOrder

variable {α : Type} {pick : Node → Option α}

mutual
/-- The two orders differ only in where they put operators, and in the roots that one of them
leaves out. -/
theorem preOrder_filterMap (noRoot : ∀ node, node.kind = .program → pick node = none)
    (noOperator : ∀ node, node.kind = .binaryOp → pick node = none) (node : Node) :
    node.preOrder.filterMap pick = node.readingOrder.filterMap pick := by
  match node with
  | mk kind value line children =>
    have below := preOrderOfAll_filterMap noRoot noOperator children
    by_cases root : kind = .program
    · subst root
      rw [preOrder, List.filterMap_cons_none (noRoot _ rfl), below, readingOrder]
    by_cases operator : kind = .binaryOp
    · subst operator
      rw [preOrder, List.filterMap_cons_none (noOperator _ rfl), below]
      cases children with
      | nil => simp [readingOrder, readingOrderOfAll, noOperator (mk .binaryOp value line []) rfl]
      | cons left right =>
        rw [readingOrder, readingOrderOfAll, List.filterMap_append, List.filterMap_append,
          List.filterMap_cons_none (noOperator _ rfl)]
    · rw [preOrder, readingOrder_before_children root operator, List.filterMap_cons,
        List.filterMap_cons, below]

/-- What is picked from neither roots nor operations comes in the same order both ways. -/
theorem preOrderOfAll_filterMap (noRoot : ∀ node, node.kind = .program → pick node = none)
    (noOperator : ∀ node, node.kind = .binaryOp → pick node = none) (nodes : List Node) :
    (preOrderOfAll nodes).filterMap pick = (readingOrderOfAll nodes).filterMap pick := by
  match nodes with
  | [] => rfl
  | node :: rest =>
    rw [preOrderOfAll, readingOrderOfAll, List.filterMap_append, List.filterMap_append,
      preOrder_filterMap noRoot noOperator node, preOrderOfAll_filterMap noRoot noOperator rest]
end

end PreOrder

end Node

/-- A node comes from a token: it has its line, and what it is and says follows from the kind and
the text of the token. -/
def Token.Carries (token : Token) (node : Node) : Prop :=
  token.line = node.line ∧
    match node.kind with
    | .program => False
    | .functionDef | .parameter | .assignment | .identifier =>
      token.kind = .identifier ∧ token.text = node.value
    | .functionCall =>
      (token.kind = .identifier ∨ token.isKeyword "print" = true) ∧ token.text = node.value
    | .number => token.kind = .number ∧ token.text = node.value
    | .string => token.kind = .string ∧ token.text = node.value
    | .binaryOp => token.kind = .operator ∧ token.text = node.value
    | .ifStatement => token.isKeyword "if" = true ∧ node.value = ""
    | .returnStatement => token.isKeyword "return" = true ∧ node.value = ""

/-- The tokens that make a node wherever they stand in a program. The others only tell where
constructs begin and end. -/
def Token.isCarrier (token : Token) : Bool :=
  !(token.isKeyword "def" || token.isKeyword "else" || token.kind == .symbol ||
    token.isOperator "=")

namespace Token

variable {token : Token}

theorem isCarrier_of_kind (keyword : token.kind ≠ .keyword) (symbol : token.kind ≠ .symbol)
    (operator : token.kind ≠ .operator) : token.isCarrier = true := by
  simp [isCarrier, isKeyword, isOperator, is, keyword, symbol, operator]

theorem isCarrier_of_plain {kind : TokenKind} (ofKind : token.kind = kind)
    (plain : kind ≠ .keyword ∧ kind ≠ .symbol ∧ kind ≠ .operator) : token.isCarrier = true := by
  subst ofKind
  exact isCarrier_of_kind plain.1 plain.2.1 plain.2.2

/-- Keywords become nodes, save those that only divide. -/
theorem isCarrier_of_keyword {word : String} (isWord : token.isKeyword word = true)
    (noDef : word ≠ "def") (noElse : word ≠ "else") : token.isCarrier = true := by
  obtain ⟨kind, text⟩ := is_iff.mp isWord
  simp [isCarrier, isKeyword, isOperator, is, kind, text, noDef, noElse]

theorem isCarrier_of_sign (kind : token.kind = .operator) (text : token.text ≠ "=") :
    token.isCarrier = true := by
  simp [isCarrier, isKeyword, isOperator, is, kind, text]

theorem not_isCarrier_of_symbol {mark : String} (isMark : token.isSymbol mark = true) :
    token.isCarrier = false := by
  simp [isCarrier, kind_of_isSymbol isMark]

theorem not_isCarrier_of_def (isDef : token.isKeyword "def" = true) : token.isCarrier = false := by
  simp [isCarrier, isDef]

theorem not_isCarrier_of_else (isElse : token.isKeyword "else" = true) :
    token.isCarrier = false := by
  simp [isCarrier, isElse]

theorem not_isCarrier_of_equals (equals : token.isOperator "=" = true) :
    token.isCarrier = false := by
  simp [isCarrier, equals]

end Token

end SnippetCheck

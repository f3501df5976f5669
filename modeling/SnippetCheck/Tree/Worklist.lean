import SnippetCheck.Tree.Basic

namespace SnippetCheck.Node

mutual
/-- The number of nodes. -/
def count : Node → Nat
  | mk _ _ _ children => countAll children + 1

def countAll : List Node → Nat
  | [] => 0
  | node :: rest => node.count + countAll rest
end

theorem countAll_append (a b : List Node) : countAll (a ++ b) = countAll a + countAll b := by
  induction a with
  | nil => simp [countAll]
  | cons node rest ih => simp only [List.cons_append, countAll, ih]; omega

theorem countAll_reverse (nodes : List Node) : countAll nodes.reverse = countAll nodes := by
  induction nodes with
  | nil => rfl
  | cons node rest ih =>
    simp only [List.reverse_cons, countAll_append, ih, countAll]
    omega

/-- Take the first waiting node, put its children before the others that wait, and go on. -/
def unstack : List Node → List Node
  | [] => []
  | mk kind value line children :: waiting =>
    mk kind value line children :: unstack (children ++ waiting)
termination_by waiting => countAll waiting
decreasing_by simp only [countAll_append, countAll, count]; omega

/-- A node and all below it in pre-order, found with a stack of the nodes still to visit. -/
def descendants (node : Node) : List Node :=
  unstack [node]

/-- Nodes that all lie on one level. -/
def atLevel (level : Nat) (nodes : List Node) : List (Node × Nat) :=
  nodes.map (·, level)

theorem countAll_atLevel (level : Nat) (nodes : List Node) :
    countAll ((atLevel level nodes).map Prod.fst) = countAll nodes := by
  simp [atLevel, Function.comp_def]

/-- The deepest level met when every waiting node carries its own, beginning from `deepest`. The
children of a node are stacked one by one, so that the last of them is the next to be taken. -/
def deepestLevel (deepest : Nat) : List (Node × Nat) → Nat
  | [] => deepest
  | (mk _ _ _ children, level) :: waiting =>
    deepestLevel (max deepest level) ((atLevel (level + 1) children).reverse ++ waiting)
termination_by waiting => countAll (waiting.map Prod.fst)
decreasing_by
  simp only [List.map_append, List.map_reverse, countAll_append, countAll_reverse,
    countAll_atLevel, List.map_cons, countAll, count]
  omega

/-- The number of levels, found with a stack of nodes and their levels. -/
def levels (node : Node) : Nat :=
  deepestLevel 0 [(node, 1)]

end SnippetCheck.Node

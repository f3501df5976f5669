import SnippetCheck.Proofs.Tree.ReadingOrder

namespace SnippetCheck.Node

section PreOrder

/-- The nodes that a stack gives one after the other are those of its trees, tree by tree. -/
theorem unstack_eq (waiting : List Node) : unstack waiting = preOrderOfAll waiting := by
  fun_induction unstack waiting with
  | case1 => rfl
  | case2 kind value line children waiting ih =>
    rw [ih, preOrderOfAll, preOrder, List.cons_append]
    simp only [preOrderOfAll_eq_flatMap, List.flatMap_append]

theorem descendants_eq (node : Node) : node.descendants = node.preOrder := by
  rw [descendants, unstack_eq, preOrderOfAll, preOrderOfAll, List.append_nil]

theorem preOrder_eq (node : Node) : node.preOrder = node :: node.children.flatMap preOrder := by
  cases node
  rw [preOrder, preOrderOfAll_eq_flatMap, children]

end PreOrder

section Levels

/-- The deepest level that waiting nodes reach. -/
def reach : List (Node × Nat) → Nat
  | [] => 0
  | (node, level) :: waiting => max (level + heightOfAll node.children) (reach waiting)

theorem reach_append (a b : List (Node × Nat)) : reach (a ++ b) = max (reach a) (reach b) := by
  induction a with
  | nil => simp [reach]
  | cons entry rest ih => rw [List.cons_append, reach, reach, ih, Nat.max_assoc]

/-- The order on the stack makes no difference to how deep it reaches. -/
theorem reach_reverse (waiting : List (Node × Nat)) : reach waiting.reverse = reach waiting := by
  induction waiting with
  | nil => rfl
  | cons entry rest ih =>
    rw [List.reverse_cons, reach_append, ih, Nat.max_comm, reach, reach, reach, Nat.max_zero]

/-- Below a level are the children of the nodes that lie there, if there are any. -/
theorem max_reach_atLevel (level : Nat) (nodes : List Node) :
    max level (reach (atLevel (level + 1) nodes)) = level + heightOfAll nodes := by
  induction nodes with
  | nil => simp [atLevel, reach, heightOfAll]
  | cons node rest ih =>
    obtain ⟨kind, value, line, children⟩ := node
    have first : reach (atLevel (level + 1) (mk kind value line children :: rest)) =
        max (level + 1 + heightOfAll children) (reach (atLevel (level + 1) rest)) := rfl
    rw [first, heightOfAll, height]
    omega

/-- A round of the loop takes a node for its children and leaves what is reached as it was. -/
theorem deepestLevel_eq (deepest : Nat) (waiting : List (Node × Nat)) :
    deepestLevel deepest waiting = max deepest (reach waiting) := by
  fun_induction deepestLevel deepest waiting with
  | case1 => simp [reach]
  | case2 deepest kind value line children level waiting ih =>
    have below := max_reach_atLevel level children
    rw [ih, reach_append, reach_reverse, reach, Node.children]
    omega

theorem levels_eq (node : Node) : node.levels = node.height := by
  cases node
  rw [levels, deepestLevel_eq, reach, reach, height, children]
  omega

theorem heightOfAll_eq_foldr (nodes : List Node) :
    heightOfAll nodes = (nodes.map height).foldr max 0 := by
  induction nodes with
  | nil => rfl
  | cons node rest ih => rw [heightOfAll, ih, List.map_cons, List.foldr_cons]

theorem height_eq (node : Node) : node.height = (node.children.map height).foldr max 0 + 1 := by
  cases node
  rw [height, heightOfAll_eq_foldr, children]

end Levels

section Ways

/-- The node at the end of a way down, which says for each level which child is taken. -/
def atWay (node : Node) : List Nat → Option Node
  | [] => some node
  | index :: way => node.children[index]?.bind (·.atWay way)

mutual
/-- All ways down from a node, in the order in which the nodes at their ends are visited. -/
def ways : Node → List (List Nat)
  | mk _ _ _ children => [] :: waysFrom 0 children

/-- The ways down through siblings, of which the first has a number. -/
def waysFrom (index : Nat) : List Node → List (List Nat)
  | [] => []
  | node :: rest => node.ways.map (index :: ·) ++ waysFrom (index + 1) rest
end

/-- A way into a list of trees begins with the number of one. -/
theorem exists_of_mem_waysFrom {index : Nat} {nodes : List Node} {way : List Nat}
    (member : way ∈ waysFrom index nodes) :
    ∃ first below, way = first :: below ∧ index ≤ first := by
  induction nodes generalizing index with
  | nil => cases member
  | cons node rest ih =>
    rcases List.mem_append.mp member with here | later
    · obtain ⟨below, -, rfl⟩ := List.mem_map.mp here
      exact ⟨index, below, rfl, Nat.le_refl _⟩
    · obtain ⟨first, below, rfl, beyond⟩ := ih later
      exact ⟨first, below, rfl, Nat.le_of_succ_le beyond⟩

mutual
/-- A way comes before all that lead further down, and ways through a child before those through
its later siblings. -/
theorem pairwise_ways : (node : Node) → node.ways.Pairwise (· < ·)
  | mk _ _ _ children => by
    rw [ways, List.pairwise_cons]
    refine ⟨fun way member => ?_, pairwise_waysFrom 0 children⟩
    obtain ⟨first, below, rfl, -⟩ := exists_of_mem_waysFrom member
    exact List.nil_lt_cons first below

theorem pairwise_waysFrom (index : Nat) : (nodes : List Node) →
    (waysFrom index nodes).Pairwise (· < ·)
  | [] => .nil
  | node :: rest => by
    rw [waysFrom, List.pairwise_append, List.pairwise_map]
    refine ⟨?_, pairwise_waysFrom (index + 1) rest, ?_⟩
    · exact (pairwise_ways node).imp fun less => List.cons_lt_cons_iff.mpr (.inr ⟨rfl, less⟩)
    · intro way here way' later
      obtain ⟨below, -, rfl⟩ := List.mem_map.mp here
      obtain ⟨first, below', rfl, beyond⟩ := exists_of_mem_waysFrom later
      exact List.cons_lt_cons_iff.mpr (.inl beyond)
end

mutual
/-- The ways lead to the nodes as they are visited. -/
theorem map_atWay_ways : (node : Node) → node.ways.map node.atWay = node.preOrder.map some
  | mk kind value line children => by
    rw [ways, preOrder, List.map_cons, List.map_cons, atWay]
    exact congrArg _ (map_atWay_waysFrom (mk kind value line children) 0 children rfl)

/-- The ways into the children lead to the nodes below them, in pre-order. -/
theorem map_atWay_waysFrom (parent : Node) (index : Nat) : (nodes : List Node) →
    parent.children.drop index = nodes →
    (waysFrom index nodes).map parent.atWay = (preOrderOfAll nodes).map some
  | [], _ => rfl
  | node :: rest, siblings => by
    have here : parent.children[index]? = some node := by
      rw [← List.head?_drop, siblings, List.head?_cons]
    have through : parent.atWay ∘ (index :: ·) = node.atWay :=
      funext fun way => by rw [Function.comp_apply, atWay, here, Option.bind_some]
    have behind : parent.children.drop (index + 1) = rest := by
      rw [← List.tail_drop, siblings, List.tail_cons]
    rw [waysFrom, preOrderOfAll, List.map_append, List.map_append, List.map_map, through,
      map_atWay_ways node, map_atWay_waysFrom parent (index + 1) rest behind]
end

theorem cons_mem_waysFrom {nodes : List Node} {index : Nat} {node : Node} {way : List Nat}
    (there : nodes[index]? = some node) (member : way ∈ node.ways) (first : Nat) :
    (first + index) :: way ∈ waysFrom first nodes := by
  induction nodes generalizing first index with
  | nil => simp at there
  | cons head rest ih =>
    rw [waysFrom, List.mem_append]
    cases index with
    | zero =>
      obtain rfl : head = node := by simpa using there
      exact .inl (List.mem_map_of_mem member)
    | succ index =>
      have later := ih (by simpa using there) (first + 1)
      rw [Nat.add_right_comm] at later
      exact .inr later

theorem mem_ways_of_atWay {root node : Node} {way : List Nat} (there : root.atWay way = some node) :
    way ∈ root.ways := by
  induction way generalizing root with
  | nil =>
    cases root
    exact List.mem_cons_self
  | cons index way ih =>
    obtain ⟨child, atIndex, below⟩ := Option.bind_eq_some_iff.mp there
    have member := cons_mem_waysFrom atIndex (ih below) 0
    rw [Nat.zero_add] at member
    cases root
    exact List.mem_cons_of_mem _ member

/-- The ways of a tree are those that lead to a node. -/
theorem mem_ways_iff {root : Node} {way : List Nat} :
    way ∈ root.ways ↔ (root.atWay way).isSome = true := by
  refine ⟨fun member => ?_, fun there => ?_⟩
  · have found : root.atWay way ∈ root.preOrder.map some :=
      map_atWay_ways root ▸ List.mem_map_of_mem member
    obtain ⟨node, -, found⟩ := List.mem_map.mp found
    rw [← found, Option.isSome_some]
  · obtain ⟨node, found⟩ := Option.isSome_iff_exists.mp there
    exact mem_ways_of_atWay found

end Ways

/-- The two worklists come to what recursion over the tree comes to. They give every node once, by
the way that leads to it: parents before what is below them, since the way to them is a beginning
of the way there, and siblings in order. -/
theorem worklists_recursive (root : Node) :
    root.descendants = root :: root.children.flatMap descendants ∧
    root.levels = (root.children.map levels).foldr max 0 + 1 ∧
    root.descendants = root.preOrder ∧ root.levels = root.height ∧
    ∃ ways : List (List Nat), ways.Pairwise (· < ·) ∧
      (∀ way, way ∈ ways ↔ (root.atWay way).isSome = true) ∧
      root.descendants.map some = ways.map root.atWay := by
  have visited : descendants = preOrder := funext descendants_eq
  have deep : levels = height := funext levels_eq
  rw [visited, deep]
  exact ⟨root.preOrder_eq, root.height_eq, rfl, rfl, root.ways, pairwise_ways root,
    fun _ => mem_ways_iff, (map_atWay_ways root).symm⟩

end SnippetCheck.Node

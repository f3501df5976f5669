import SnippetCheck.Proofs.Symbol.Run
import SnippetCheck.Symbol.Collect

namespace SnippetCheck

namespace Node

mutual
/-- The definitions in a tree that stands in a scope. A function opens a scope for what is below
it, and what comes after it is again in the scope around it. -/
def definitionsIn (scope : String) : Node → List Symbol
  | mk .functionDef name line children =>
    ⟨name, .function, scope, line⟩ :: definitionsInBody (innerScope scope name) children
  | mk .assignment name line children =>
    ⟨name, .assigned, scope, line⟩ :: definitionsInAll scope children
  | mk .identifier _ _ _ => []
  | mk _ _ _ children => definitionsInAll scope children

def definitionsInAll (scope : String) : List Node → List Symbol
  | [] => []
  | node :: rest => node.definitionsIn scope ++ definitionsInAll scope rest

/-- The definitions in the children of a function. The parameters are among them. -/
def definitionsInBody (scope : String) : List Node → List Symbol
  | [] => []
  | child :: rest =>
    (if child.kind = .parameter then [⟨child.value, .parameter, scope, child.line⟩]
      else child.definitionsIn scope) ++ definitionsInBody scope rest
end

end Node

/-- What is met on the way through a tree: a definition, or a name that is read. -/
inductive Visit
  | definition (symbol : Symbol)
  | read (name : String) (line : UInt32)

def Visit.symbol? : Visit → Option Symbol
  | definition symbol => some symbol
  | read _ _ => none

namespace Node

mutual
/-- All that is met in a tree that stands in a scope, in the order of the traversal. -/
def visits (scope : String) : Node → List Visit
  | mk .functionDef name line children =>
    .definition ⟨name, .function, scope, line⟩ :: visitsInBody (innerScope scope name) children
  | mk .assignment name line children =>
    .definition ⟨name, .assigned, scope, line⟩ :: visitsInAll scope children
  | mk .identifier name line _ => [.read name line]
  | mk _ _ _ children => visitsInAll scope children

def visitsInAll (scope : String) : List Node → List Visit
  | [] => []
  | node :: rest => node.visits scope ++ visitsInAll scope rest

def visitsInBody (scope : String) : List Node → List Visit
  | [] => []
  | child :: rest =>
    (if child.kind = .parameter then
      [.definition ⟨child.value, .parameter, scope, child.line⟩]
    else child.visits scope) ++ visitsInBody scope rest
end

mutual
/-- The definitions among what is met in a tree are those of the tree. -/
theorem visits_definitions (scope : String) (tree : Node) :
    (tree.visits scope).filterMap Visit.symbol? = tree.definitionsIn scope := by
  match tree with
  | .mk kind name line children =>
    cases kind with
    | functionDef =>
      exact congrArg _ (visitsInBody_definitions (innerScope scope name) children)
    | assignment => exact congrArg _ (visitsInAll_definitions scope children)
    | identifier => rfl
    | _ => exact visitsInAll_definitions scope children

theorem visitsInAll_definitions (scope : String) (trees : List Node) :
    (visitsInAll scope trees).filterMap Visit.symbol? = definitionsInAll scope trees := by
  match trees with
  | [] => rfl
  | first :: rest =>
    rw [visitsInAll, definitionsInAll, List.filterMap_append, visits_definitions scope first,
      visitsInAll_definitions scope rest]

theorem visitsInBody_definitions (scope : String) (trees : List Node) :
    (visitsInBody scope trees).filterMap Visit.symbol? = definitionsInBody scope trees := by
  match trees with
  | [] => rfl
  | first :: rest =>
    rw [visitsInBody, definitionsInBody, List.filterMap_append,
      visitsInBody_definitions scope rest]
    congr 1
    split
    · rfl
    · exact visits_definitions scope first
end

end Node

/-- Take note of one visit. -/
def Collected.note (collected : Collected) : Visit → Collected
  | .definition symbol => collected.define symbol
  | .read name line => collected.read name line

namespace Collector

/-- Take note of some visits, with the scopes as they are. -/
def along (collector : Collector) (visits : List Visit) : Collector :=
  { collector with collected := visits.foldl Collected.note collector.collected }

section Along

variable (collector : Collector)

theorem along_append (visits later : List Visit) :
    (collector.along visits).along later = collector.along (visits ++ later) := by
  simp [along]

@[simp]
theorem currentScope_along (visits : List Visit) :
    (collector.along visits).currentScope = collector.currentScope :=
  rfl

theorem currentScope_enter (scope : String) : (collector.enter scope).currentScope = scope :=
  rfl

/-- To define a symbol is to meet its definition. -/
theorem define_eq_along (symbol : Symbol) :
    collector.define symbol = collector.along [.definition symbol] :=
  rfl

/-- What is met between entering a scope and leaving it is all that is left of the scope. -/
theorem leave_along_enter (scope : String) (visits : List Visit) :
    ((collector.enter scope).along visits).leave = collector.along visits :=
  rfl

theorem body_of_parameter {child : Node} (parameter : child.kind = .parameter) (inner : String)
    (rest : List Node) :
    body inner (child :: rest) collector =
      body inner rest (collector.define ⟨child.value, .parameter, inner, child.line⟩) := by
  obtain ⟨kind, value, line, children⟩ := child
  obtain rfl : kind = .parameter := parameter
  rfl

/-- In a body all but parameters is gone through like any node. -/
theorem body_of_ne_parameter {child : Node} (other : child.kind ≠ .parameter) (inner : String)
    (rest : List Node) :
    body inner (child :: rest) collector = body inner rest (node child collector) := by
  obtain ⟨kind, value, line, children⟩ := child
  cases kind with
  | parameter => exact absurd rfl other
  | _ => rfl

end Along

mutual
/-- The way through a tree leaves the scopes as they were, and takes note of what is met in the
tree if that stands in the current one. The children of a function are gone through in the scope
that was entered last. -/
theorem node_eq_along (tree : Node) (collector : Collector) :
    node tree collector = collector.along (tree.visits collector.currentScope) := by
  match tree with
  | .mk kind name line children =>
    cases kind with
    | functionDef =>
      have inside := body_eq_along children (innerScope collector.currentScope name)
        ((collector.define ⟨name, .function, collector.currentScope, line⟩).enter
          (innerScope collector.currentScope name)) (currentScope_enter _ _)
      rw [node, inside, leave_along_enter, define_eq_along, along_append]
      rfl
    | assignment =>
      rw [node, nodes_eq_along, define_eq_along, along_append]
      rfl
    | identifier => rfl
    | _ => exact nodes_eq_along children collector

theorem nodes_eq_along (trees : List Node) (collector : Collector) :
    nodes trees collector = collector.along (Node.visitsInAll collector.currentScope trees) := by
  match trees with
  | [] => rfl
  | first :: rest =>
    rw [nodes, nodes_eq_along rest, node_eq_along first, currentScope_along, along_append]
    rfl

theorem body_eq_along (trees : List Node) (inner : String) (collector : Collector)
    (current : collector.currentScope = inner) :
    body inner trees collector = collector.along (Node.visitsInBody inner trees) := by
  match trees with
  | [] => rfl
  | child :: rest =>
    rw [Node.visitsInBody]
    by_cases parameter : child.kind = .parameter
    · have later := body_eq_along rest inner
        (collector.along [.definition ⟨child.value, .parameter, inner, child.line⟩]) current
      rw [if_pos parameter, body_of_parameter collector parameter, define_eq_along, later,
        along_append]
    · have later := body_eq_along rest inner (collector.along (child.visits inner)) current
      rw [if_neg parameter, body_of_ne_parameter collector parameter, node_eq_along child, current,
        later, along_append]
end

end Collector

/-- What is recorded of a tree is noted on the way through it, scopes resolved. -/
theorem collectSymbols_eq_foldl (root : Node) :
    collectSymbols root = (root.visits globalScope).foldl Collected.note .empty := by
  rw [collectSymbols, Collector.node_eq_along]
  rfl

namespace Collected

/-- A name that is read is not recorded. -/
@[simp]
theorem read_table (collected : Collected) (name : String) (line : UInt32) :
    (collected.read name line).table = collected.table := by
  rw [read]
  split <;> rfl

/-- Of what is met, the table has the definitions. -/
theorem foldl_note_table (visits : List Visit) (collected : Collected) :
    (visits.foldl note collected).table =
      (visits.filterMap Visit.symbol?).foldl SymbolTable.define collected.table := by
  induction visits generalizing collected with
  | nil => rfl
  | cons visit rest ih =>
    cases visit with
    | definition symbol => exact ih _
    | read name line =>
      rw [List.foldl_cons, ih, note, read_table]
      rfl

end Collected

/-- The table of a tree is what the definitions in it leave behind. -/
theorem collectSymbols_table (root : Node) :
    (collectSymbols root).table = .ofDefinitions (root.definitionsIn globalScope) := by
  rw [collectSymbols_eq_foldl, Collected.foldl_note_table, root.visits_definitions]
  rfl

end SnippetCheck

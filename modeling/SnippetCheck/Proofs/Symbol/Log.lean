import Mathlib.Data.List.Basic
import SnippetCheck.Proofs.Symbol.Scopes
import SnippetCheck.Proofs.Tree.ReadingOrder
import SnippetCheck.Proofs.Tree.Shape

namespace SnippetCheck

/-- What nodes of a kind define. -/
def NodeKind.defines : NodeKind → Option SymbolKind
  | functionDef => some .function
  | parameter => some .parameter
  | assignment => some .assigned
  | _ => none

/-- A definition without its scope: the name, how it is defined, and the line. -/
def Symbol.entry (symbol : Symbol) : String × SymbolKind × UInt32 :=
  (symbol.name, symbol.kind, symbol.line)

namespace Node

def entry? (node : Node) : Option (String × SymbolKind × UInt32) :=
  node.kind.defines.map fun kind => (node.value, kind, node.line)

/-- The symbol that a node defines in a scope. -/
def symbol? (scope : String) (node : Node) : Option Symbol :=
  node.kind.defines.map fun kind => ⟨node.value, kind, scope, node.line⟩

/-- The symbols that a child of a root defines. Whatever a definition has below it belongs to its
own scope. -/
def symbols (scope : String) (node : Node) : List Symbol :=
  if node.kind = .functionDef then
    ⟨node.value, .function, scope, node.line⟩ ::
      (preOrderOfAll node.children).filterMap (symbol? (innerScope scope node.value))
  else node.preOrder.filterMap (symbol? scope)

theorem symbol?_scope {scope : String} {node : Node} {symbol : Symbol}
    (found : node.symbol? scope = some symbol) : symbol.scope = scope := by
  obtain ⟨kind, -, rfl⟩ := Option.map_eq_some_iff.mp found
  rfl

theorem symbols_scope {scope : String} {node : Node} {symbol : Symbol}
    (member : symbol ∈ node.symbols scope) :
    symbol.scope = scope ∨
      node.kind = .functionDef ∧ symbol.scope = innerScope scope node.value := by
  rw [symbols] at member
  split at member
  · next isDefinition =>
    rcases List.mem_cons.mp member with rfl | inner
    · exact .inl rfl
    · obtain ⟨below, -, found⟩ := List.mem_filterMap.mp inner
      exact .inr ⟨isDefinition, symbol?_scope found⟩
  · obtain ⟨below, -, found⟩ := List.mem_filterMap.mp member
    exact .inl (symbol?_scope found)

/-- What a node defines is the same whatever scope it stands in, but for the scope. -/
theorem symbols_entry (scope : String) (node : Node) :
    (node.symbols scope).map Symbol.entry = node.preOrder.filterMap entry? := by
  have unscoped (scope : String) (nodes : List Node) :
      (nodes.filterMap (symbol? scope)).map Symbol.entry = nodes.filterMap entry? := by
    rw [List.map_filterMap]
    congr 1
    funext below
    simp [symbol?, entry?, Symbol.entry, Function.comp_def]
  rw [symbols]
  split
  · next isDefinition =>
    obtain ⟨kind, value, line, children⟩ := node
    obtain rfl : kind = .functionDef := isDefinition
    rw [List.map_cons, unscoped]
    rfl
  · exact unscoped scope node.preOrder

theorem flatMap_symbols_entry (scope : String) (nodes : List Node) :
    (nodes.flatMap (symbols scope)).map Symbol.entry =
      (preOrderOfAll nodes).filterMap entry? := by
  simp only [preOrderOfAll_eq_flatMap, List.map_flatMap, List.filterMap_flatMap, symbols_entry]

theorem definitionsInAll_eq_flatMap (scope : String) (nodes : List Node) :
    definitionsInAll scope nodes = nodes.flatMap (definitionsIn scope) := by
  induction nodes with
  | nil => rfl
  | cons first rest ih => rw [definitionsInAll, ih, List.flatMap_cons]

/-- The definitions in a tree are those of its nodes, in their order and all in one scope. -/
def Logs (scope : String) (tree : Node) : Prop :=
  tree.definitionsIn scope = tree.preOrder.filterMap (symbol? scope)

section Logs

variable {scope : String} {children : List Node}

theorem definitionsInAll_of_logs (each : ∀ child ∈ children, Logs scope child) :
    definitionsInAll scope children = (preOrderOfAll children).filterMap (symbol? scope) := by
  rw [definitionsInAll_eq_flatMap, preOrderOfAll_eq_flatMap, List.filterMap_flatMap]
  exact List.flatMap_congr each

/-- A node that defines nothing logs what its children log. -/
theorem logs_of_children {kind : NodeKind} (value : String) (line : UInt32)
    (silent : kind.defines = none) (noName : kind ≠ .identifier)
    (each : ∀ child ∈ children, Logs scope child) : Logs scope (.mk kind value line children) := by
  have below : (mk kind value line children).definitionsIn scope =
      definitionsInAll scope children := by
    cases kind with
    | functionDef => simp [NodeKind.defines] at silent
    | assignment => simp [NodeKind.defines] at silent
    | identifier => exact absurd rfl noName
    | _ => rfl
  rw [Logs, below, definitionsInAll_of_logs each, preOrder, List.filterMap_cons_none]
  simp [symbol?, Node.kind, silent]

theorem logs_of_isExpression {tree : Node} (shape : tree.IsExpression) : Logs scope tree := by
  induction shape with
  | number => exact logs_of_children _ _ rfl (by decide) (by simp)
  | string => exact logs_of_children _ _ rfl (by decide) (by simp)
  | name => rfl
  | call _ _ _ ih => exact logs_of_children _ _ rfl (by decide) ih
  | operation _ _ _ _ left right =>
    exact logs_of_children _ _ rfl (by decide) (by simpa using ⟨left, right⟩)

/-- Statements and expressions define in the scope around them. -/
theorem logs_of_isStatement {tree : Node} (shape : tree.IsStatement) : Logs scope tree := by
  induction shape with
  | expression value => exact logs_of_isExpression value
  | conditional _ condition _ ih =>
    exact logs_of_children _ _ rfl nofun
      (List.forall_mem_cons.mpr ⟨logs_of_isExpression condition, ih⟩)
  | bareReturn => exact logs_of_children _ _ rfl nofun (by simp)
  | returnValue _ value =>
    exact logs_of_children _ _ rfl nofun (by simpa using logs_of_isExpression value)
  | @assignment name line value expression =>
    have below : ∀ child ∈ [value], Logs scope child := by
      simpa using logs_of_isExpression expression
    rw [Logs, definitionsIn, definitionsInAll_of_logs below, preOrder]
    rfl

theorem definitionsInBody_statements (statements : ∀ child ∈ children, child.IsStatement) :
    definitionsInBody scope children = (preOrderOfAll children).filterMap (symbol? scope) := by
  induction children with
  | nil => rfl
  | cons first rest ih =>
    have shape := statements first List.mem_cons_self
    have other : first.kind ≠ .parameter := by
      intro isParameter
      simpa [isParameter, NodeKind.isCommon] using shape.isCommon
    rw [definitionsInBody, if_neg other,
      ih fun child member => statements child (List.mem_cons_of_mem _ member),
      logs_of_isStatement shape, preOrderOfAll, List.filterMap_append]

/-- The parameters of a definition are logged before what its body defines. -/
theorem definitionsInBody_parameters {parameters : List Node}
    (declared : ∀ parameter ∈ parameters, parameter.IsParameter)
    (statements : ∀ child ∈ children, child.IsStatement) :
    definitionsInBody scope (parameters ++ children) =
      (preOrderOfAll (parameters ++ children)).filterMap (symbol? scope) := by
  induction parameters with
  | nil => exact definitionsInBody_statements statements
  | cons first rest ih =>
    obtain ⟨name, line⟩ := declared first List.mem_cons_self
    rw [List.cons_append, definitionsInBody,
      ih fun parameter member => declared parameter (List.mem_cons_of_mem _ member),
      preOrderOfAll, List.filterMap_append]
    rfl

/-- What stands at the top of a program defines in one scope, or in the scope within if it is a
function. -/
theorem definitionsIn_child {child : Node} (shape : child.IsDefinition ∨ child.IsStatement) :
    child.definitionsIn scope = child.symbols scope := by
  rcases shape with ⟨name, line, declared, statements⟩ | statement
  · rw [definitionsIn, definitionsInBody_parameters declared statements]
    rfl
  · have noDefinition : child.kind ≠ .functionDef := by
      intro isDefinition
      simpa [isDefinition, NodeKind.isCommon] using statement.isCommon
    rw [logs_of_isStatement statement, symbols, if_neg noDefinition]

end Logs

end Node

/-- The log holds the definitions of the tree in order. -/
theorem logged_collectSymbols (tree : Node) : (collectSymbols tree).table.Logged := by
  rw [collectSymbols_table]
  exact SymbolTable.keeps_ofDefinitions SymbolTable.logged_stable SymbolTable.logged_empty _

/-- What is collected from a program is what its definitions and statements define, one after the
other. -/
theorem Node.IsProgram.definitions {tree : Node} (shape : tree.IsProgram) :
    (collectSymbols tree).table.definitions = tree.children.flatMap (symbols globalScope) := by
  obtain ⟨kind, value, line, children⟩ := tree
  obtain rfl : kind = .program := shape.root
  rw [collectSymbols_table, SymbolTable.ofDefinitions_definitions]
  calc definitionsIn globalScope (Node.mk .program value line children)
      = children.flatMap (definitionsIn globalScope) := definitionsInAll_eq_flatMap _ _
    _ = children.flatMap (symbols globalScope) :=
        List.flatMap_congr fun child member => definitionsIn_child (shape.children child member)

theorem Node.IsProgram.definitions_entry {tree : Node} (shape : tree.IsProgram) :
    (collectSymbols tree).table.definitions.map Symbol.entry = tree.preOrder.filterMap entry? := by
  rw [shape.definitions, flatMap_symbols_entry]
  obtain ⟨kind, value, line, children⟩ := tree
  obtain rfl : kind = .program := shape.root
  rfl

end SnippetCheck

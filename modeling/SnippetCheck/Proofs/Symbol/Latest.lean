import SnippetCheck.Proofs.Symbol.Log

namespace SnippetCheck

namespace SymbolTable

theorem find?_store (symbol : Symbol) (current : List Symbol) (name : String) :
    (store symbol current).find? (·.name == name) =
      if symbol.name = name then some symbol else current.find? (·.name == name) := by
  induction current with
  | nil => simp [store, List.find?_singleton]
  | cons first rest ih =>
    rw [store]
    split
    · next taken => by_cases wanted : symbol.name = name <;> simp [taken, wanted]
    · next taken =>
      by_cases wanted : first.name = name
      · have other : symbol.name ≠ name := fun same => taken (wanted.trans same.symm)
        simp [wanted, other]
      · simp [wanted, ih]

/-- A definition takes the place of all earlier ones of its name. -/
theorem lookup_define (table : SymbolTable) (symbol : Symbol) (name : String) :
    (table.define symbol).lookup name =
      if symbol.name = name then some symbol else table.lookup name :=
  find?_store symbol table.current name

/-- What is current under a name is what was logged last under it. -/
def Latest (table : SymbolTable) : Prop :=
  ∀ name, table.lookup name = table.definitions.reverse.find? (·.name == name)

theorem latest_empty : empty.Latest :=
  fun _ => rfl

theorem latest_stable : Stable Latest := by
  intro table symbol latest name
  rw [lookup_define, define_definitions, List.reverse_append, List.reverse_singleton,
    List.singleton_append, List.find?_cons]
  by_cases wanted : symbol.name = name
  · simp [wanted]
  · rw [if_neg wanted, beq_false_of_ne wanted, latest name]

theorem latest_ofDefinitions (symbols : List Symbol) : (ofDefinitions symbols).Latest :=
  keeps_ofDefinitions latest_stable latest_empty symbols

/-- A name is contained if it can be looked up. -/
theorem contains_eq_isSome (table : SymbolTable) (name : String) :
    table.contains name = (table.lookup name).isSome := by
  rw [contains, lookup, List.isSome_find?]

theorem Latest.contains {table : SymbolTable} (latest : table.Latest) (name : String) :
    table.contains name = table.definitions.any (·.name == name) := by
  rw [contains_eq_isSome, latest, List.isSome_find?, List.any_reverse]

end SymbolTable

/-- In what is recorded of a tree, the last definition of a name is the current one. -/
theorem latest_collectSymbols (tree : Node) : (collectSymbols tree).table.Latest := by
  rw [collectSymbols_table]
  exact SymbolTable.latest_ofDefinitions _

namespace Node

/-- Whether a node defines a name: as a function, as a parameter, or by an assignment. -/
def definesName (name : String) (node : Node) : Bool :=
  node.kind.defines.isSome && node.value == name

/-- The definition of a name that comes last in pre-order, in whatever scope. -/
def lastDefinition (root : Node) (name : String) : Option Node :=
  root.preOrder.reverse.find? (·.definesName name)

theorem lastDefinition_some {root node : Node} {name : String}
    (found : root.lastDefinition name = some node) :
    node ∈ root.preOrder ∧ node.definesName name = true := by
  rw [lastDefinition] at found
  have defines := List.find?_some found
  exact ⟨List.mem_reverse.mp (List.mem_of_find?_eq_some found), defines⟩

theorem entry?_any_name (node : Node) (name : String) :
    node.entry?.any (·.1 == name) = node.definesName name := by
  rw [Node.entry?, definesName]
  cases node.kind.defines <;> rfl

/-- The table keeps of every name what its last definition in the tree says, and loses what the
definitions before it said. -/
theorem IsProgram.lookup_entry {tree : Node} (shape : tree.IsProgram) (name : String) :
    ((collectSymbols tree).table.lookup name).map Symbol.entry =
      (tree.lastDefinition name).bind entry? := by
  calc ((collectSymbols tree).table.lookup name).map Symbol.entry
      = ((collectSymbols tree).table.definitions.map Symbol.entry).reverse.find? (·.1 == name) := by
        rw [latest_collectSymbols tree name, ← List.map_reverse, List.find?_map]
        rfl
    _ = (tree.preOrder.reverse.filterMap entry?).find? (·.1 == name) := by
        rw [shape.definitions_entry, List.filterMap_reverse]
    _ = (tree.lastDefinition name).bind entry? := by
        rw [List.find?_filterMap, lastDefinition]
        simp only [entry?_any_name]

end Node

end SnippetCheck

import Mathlib.Data.Finset.Card
import SnippetCheck.Proofs.Lists
import SnippetCheck.Proofs.Symbol.Latest

namespace SnippetCheck.SymbolTable

/-- The last definition of a name in a sequence. -/
def lastNamed (symbols : List Symbol) (name : String) : Option Symbol :=
  (symbols.filter (·.name == name)).getLast?

/-- A name that is there keeps its place, and a new one goes to the end. -/
theorem map_name_store (symbol : Symbol) (current : List Symbol) :
    (store symbol current).map Symbol.name =
      if symbol.name ∈ current.map Symbol.name then current.map Symbol.name
      else current.map Symbol.name ++ [symbol.name] := by
  induction current with
  | nil => simp [store]
  | cons first rest ih =>
    by_cases taken : first.name = symbol.name
    · simp [store, taken]
    · have other : symbol.name ≠ first.name := Ne.symm taken
      rw [store, if_neg taken, List.map_cons, ih]
      by_cases later : symbol.name ∈ rest.map Symbol.name
      · rw [if_pos later, if_pos (by simpa [other] using later), List.map_cons]
      · rw [if_neg later, if_neg (by simpa [other] using later), List.map_cons, List.cons_append]

/-- No two current symbols have one name. -/
def Distinct (table : SymbolTable) : Prop :=
  (table.current.map Symbol.name).Nodup

theorem distinct_empty : empty.Distinct :=
  List.nodup_nil

theorem distinct_stable : Stable Distinct := by
  intro table symbol distinct
  rw [Distinct, define, map_name_store]
  split
  · exact distinct
  · next new => exact List.nodup_append.mpr ⟨distinct, List.nodup_singleton _, by grind⟩

/-- The current symbols stand in the order in which their names were logged first. -/
def FirstOrder (table : SymbolTable) : Prop :=
  table.current.map Symbol.name = (table.definitions.map Symbol.name).eraseDups

theorem firstOrder_empty : empty.FirstOrder :=
  rfl

theorem firstOrder_stable : Stable FirstOrder := by
  intro table symbol inOrder
  rw [FirstOrder, define_definitions, List.map_append, List.map_singleton, eraseDups_concat,
    ← inOrder, define, map_name_store]
  congr 1
  rw [inOrder, List.mem_eraseDups]

theorem Distinct.lookup_of_mem {table : SymbolTable} (distinct : table.Distinct) {symbol : Symbol}
    (member : symbol ∈ table.current) : table.lookup symbol.name = some symbol := by
  obtain ⟨current, log⟩ := table
  simp only [Distinct, lookup] at distinct member ⊢
  induction current with
  | nil => cases member
  | cons first rest ih =>
    obtain ⟨new, distinct⟩ := List.nodup_cons.mp distinct
    rcases List.mem_cons.mp member with rfl | later
    · simp
    · have other : first.name ≠ symbol.name := fun same =>
        new (List.mem_map.mpr ⟨symbol, later, same.symm⟩)
      rw [List.find?_cons_of_neg (by simpa using other), ih distinct later]

/-- The current symbols are what their names are looked up as. -/
theorem Distinct.filterMap_lookup {table : SymbolTable} (distinct : table.Distinct) :
    (table.current.map Symbol.name).filterMap table.lookup = table.current := by
  have each : ∀ symbol ∈ table.current, (table.lookup ∘ Symbol.name) symbol = some symbol :=
    fun symbol member => distinct.lookup_of_mem member
  rw [List.filterMap_map, List.filterMap_congr each, List.filterMap_some]

/-- A table is what its definitions leave behind: all of them in the log, and of every name the
last one, in the order in which the names came up first. An earlier definition of a name is not to
be found any more, not even by asking for its kind. -/
theorem ofDefinitions_lastWrite (symbols : List Symbol) :
    (ofDefinitions symbols).definitions = symbols ∧
    (∀ name,
      (ofDefinitions symbols).lookup name = lastNamed symbols name ∧
      (ofDefinitions symbols).contains name = symbols.any (·.name == name) ∧
      ∀ kind, (ofDefinitions symbols).lookupKind name kind =
        (lastNamed symbols name).filter (·.kind == kind)) ∧
    (ofDefinitions symbols).current =
      ((symbols.map Symbol.name).eraseDups).filterMap (lastNamed symbols) ∧
    ((ofDefinitions symbols).current.map Symbol.name).Nodup ∧
    (ofDefinitions symbols).current.map Symbol.name = (symbols.map Symbol.name).eraseDups ∧
    (ofDefinitions symbols).size = (symbols.map Symbol.name).toFinset.card := by
  have logged := ofDefinitions_definitions symbols
  have distinct := keeps_ofDefinitions distinct_stable distinct_empty symbols
  have inOrder := keeps_ofDefinitions firstOrder_stable firstOrder_empty symbols
  have latest := latest_ofDefinitions symbols
  rw [FirstOrder, logged] at inOrder
  have found (name : String) : (ofDefinitions symbols).lookup name = lastNamed symbols name := by
    rw [latest, logged, lastNamed, List.getLast?_filter]
  refine ⟨logged, fun name => ⟨found name, ?_, fun kind => ?_⟩, ?_, distinct, inOrder, ?_⟩
  · rw [latest.contains, logged]
  · rw [lookupKind, found]
  · rw [← distinct.filterMap_lookup, inOrder]
    exact List.filterMap_congr fun name _ => found name
  · have counted := List.toFinset_card_of_nodup distinct
    rw [List.length_map] at counted
    rw [size, ← counted, inOrder]
    congr 1
    ext name
    simp

end SnippetCheck.SymbolTable

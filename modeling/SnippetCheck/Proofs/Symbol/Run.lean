import SnippetCheck.Symbol.Table

namespace SnippetCheck.SymbolTable

@[simp]
theorem define_definitions (table : SymbolTable) (symbol : Symbol) :
    (table.define symbol).definitions = table.definitions ++ [symbol] := by
  simp [define, definitions]

/-- The table that a sequence of definitions leaves behind. -/
def ofDefinitions (symbols : List Symbol) : SymbolTable :=
  symbols.foldl define empty

theorem ofDefinitions_concat (symbols : List Symbol) (symbol : Symbol) :
    ofDefinitions (symbols ++ [symbol]) = (ofDefinitions symbols).define symbol := by
  rw [ofDefinitions, List.foldl_append]
  rfl

/-- No definition takes the property from a table. -/
def Stable (P : SymbolTable → Prop) : Prop :=
  ∀ (table : SymbolTable) (symbol : Symbol), P table → P (table.define symbol)

section Steps

variable {P : SymbolTable → Prop} (stable : Stable P)
include stable

theorem keeps_foldl (symbols : List Symbol) (table : SymbolTable) (holds : P table) :
    P (symbols.foldl define table) := by
  induction symbols generalizing table with
  | nil => exact holds
  | cons symbol rest ih => exact ih (table.define symbol) (stable table symbol holds)

theorem keeps_ofDefinitions (holds : P empty) (symbols : List Symbol) :
    P (ofDefinitions symbols) :=
  keeps_foldl stable symbols empty holds

end Steps

theorem foldl_define_definitions (symbols : List Symbol) (table : SymbolTable) :
    (symbols.foldl define table).definitions = table.definitions ++ symbols := by
  induction symbols generalizing table with
  | nil => simp
  | cons symbol rest ih => simp [ih]

@[simp]
theorem ofDefinitions_definitions (symbols : List Symbol) :
    (ofDefinitions symbols).definitions = symbols :=
  foldl_define_definitions symbols empty

theorem mem_store {symbol other : Symbol} {current : List Symbol}
    (member : other ∈ store symbol current) : other = symbol ∨ other ∈ current := by
  induction current with
  | nil => exact .inl (by simpa [store] using member)
  | cons first rest ih =>
    rw [store] at member
    split at member
    · exact (List.mem_cons.mp member).imp_right (List.mem_cons_of_mem _)
    · rcases List.mem_cons.mp member with rfl | later
      · exact .inr List.mem_cons_self
      · exact (ih later).imp_right (List.mem_cons_of_mem _)

/-- Every current symbol has been logged. -/
def Logged (table : SymbolTable) : Prop :=
  ∀ symbol ∈ table.current, symbol ∈ table.definitions

theorem logged_empty : empty.Logged :=
  List.forall_mem_nil _

theorem logged_stable : Stable Logged := by
  intro table symbol logged other member
  rw [define_definitions]
  rcases mem_store member with rfl | earlier
  · exact List.mem_append_right _ (List.mem_singleton_self _)
  · exact List.mem_append_left _ (logged other earlier)

end SnippetCheck.SymbolTable

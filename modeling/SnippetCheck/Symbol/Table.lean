import SnippetCheck.Text.Render

namespace SnippetCheck

/-- How a symbol came to be: by a definition, in a parameter list, or as the target of an
assignment. -/
inductive SymbolKind
  | function
  | parameter
  | assigned
  deriving DecidableEq

namespace SymbolKind

/-- Every kind once, in the order of the error texts that list them. -/
def all : List SymbolKind :=
  [function, parameter, assigned]

/-- The name a kind has in reports. -/
def name : SymbolKind → String
  | function => "function"
  | parameter => "parameter"
  | assigned => "variable"

/-- The kind of a symbol fills a column like any text. -/
def inColumn (field : Text.Field) (kind : SymbolKind) : String :=
  field.render kind.name

theorem mem_all (kind : SymbolKind) : kind ∈ all := by
  cases kind <;> decide

end SymbolKind

/-- A recorded definition. The scope is a path of function names below `global`, with dots
between them. -/
structure Symbol where
  name : String
  kind : SymbolKind
  scope : String
  line : UInt32
  deriving DecidableEq

def globalScope : String :=
  "global"

/-- The scope inside function `name` declared in scope `outer`. -/
def innerScope (outer name : String) : String :=
  outer ++ "." ++ name

/-- The definitions of a program: the current symbol of every name, in the order in which the
names first came up, and the log of all definitions. Scopes do not keep names apart: a later
definition takes the place of an earlier one of the same name anywhere. -/
structure SymbolTable where
  current : List Symbol
  log : Array Symbol

namespace SymbolTable

def empty : SymbolTable :=
  ⟨[], #[]⟩

/-- Put a symbol in the place of the one with its name, or at the end if there is none. -/
def store (symbol : Symbol) : List Symbol → List Symbol
  | [] => [symbol]
  | first :: rest =>
    if first.name = symbol.name then symbol :: rest else first :: store symbol rest

def define (table : SymbolTable) (symbol : Symbol) : SymbolTable :=
  ⟨store symbol table.current, table.log.push symbol⟩

/-- The current symbol of a name. -/
def lookup (table : SymbolTable) (name : String) : Option Symbol :=
  table.current.find? (·.name == name)

/-- The current symbol of a name, if it is of a kind. An earlier one of that kind does not
count. -/
def lookupKind (table : SymbolTable) (name : String) (kind : SymbolKind) : Option Symbol :=
  (table.lookup name).filter (·.kind == kind)

def contains (table : SymbolTable) (name : String) : Bool :=
  table.current.any (·.name == name)

/-- The number of names. -/
def size (table : SymbolTable) : Nat :=
  table.current.length

def isEmpty (table : SymbolTable) : Bool :=
  table.current.isEmpty

/-- Every definition in the order in which it was recorded. -/
def definitions (table : SymbolTable) : List Symbol :=
  table.log.toList

end SymbolTable
end SnippetCheck

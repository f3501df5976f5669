import SnippetCheck.Diagnostic
import SnippetCheck.Symbol.Table
import SnippetCheck.Token.Basic
import SnippetCheck.Tree.Basic

namespace SnippetCheck

/-- What has been recorded on the way through a tree. -/
structure Collected where
  table : SymbolTable
  warnings : Array Warning

namespace Collected

def empty : Collected :=
  ⟨.empty, #[]⟩

def define (collected : Collected) (symbol : Symbol) : Collected :=
  { collected with table := collected.table.define symbol }

/-- A name that is read. It should be a builtin or have been defined, no matter in which
scope. -/
def read (collected : Collected) (name : String) (line : UInt32) : Collected :=
  if collected.table.contains name || isBuiltin name then collected
  else { collected with warnings := collected.warnings.push (.undefinedName name line) }

end Collected

/-- A walk through a tree: what has been recorded so far, and the scopes that have been entered
and not left, the innermost first. -/
structure Collector where
  collected : Collected
  scopes : List String

namespace Collector

def start : Collector :=
  ⟨.empty, [globalScope]⟩

def currentScope (collector : Collector) : String :=
  collector.scopes.head?.getD globalScope

def enter (collector : Collector) (scope : String) : Collector :=
  { collector with scopes := scope :: collector.scopes }

def leave (collector : Collector) : Collector :=
  { collector with scopes := collector.scopes.tail }

def define (collector : Collector) (symbol : Symbol) : Collector :=
  { collector with collected := collector.collected.define symbol }

def read (collector : Collector) (name : String) (line : UInt32) : Collector :=
  { collector with collected := collector.collected.read name line }

mutual
/-- Record a node and what is below it, from left to right. A function is defined before its
body is entered, a variable before its value is looked at. -/
def node : Node → Collector → Collector
  | .mk .functionDef name line children, collector =>
    let scope := collector.currentScope
    let inner := innerScope scope name
    let collector := (collector.define ⟨name, .function, scope, line⟩).enter inner
    (body inner children collector).leave
  | .mk .assignment name line children, collector =>
    nodes children (collector.define ⟨name, .assigned, collector.currentScope, line⟩)
  | .mk .identifier name line _, collector => collector.read name line
  | .mk _ _ _ children, collector => nodes children collector

def nodes : List Node → Collector → Collector
  | [], collector => collector
  | first :: rest, collector => nodes rest (node first collector)

/-- The children of a function: parameters are defined in its scope, all else is recorded. -/
def body (inner : String) : List Node → Collector → Collector
  | [], collector => collector
  | .mk .parameter name line _ :: rest, collector =>
    body inner rest (collector.define ⟨name, .parameter, inner, line⟩)
  | first :: rest, collector => body inner rest (node first collector)
end

end Collector

/-- The symbols of a tree and the names that are read without a definition. -/
def collectSymbols (root : Node) : Collected :=
  (Collector.node root .start).collected

end SnippetCheck

import SnippetCheck.Check.Basic

namespace SnippetCheck

/-- How often a name is declared in one scope: every parameter counts, and all assignments
together count once. -/
structure Declarations where
  name : String
  scope : String
  parameters : Nat
  assigned : Bool
  deriving DecidableEq

namespace Declarations

def add (declarations : Declarations) : SymbolKind → Declarations
  | .parameter => { declarations with parameters := declarations.parameters + 1 }
  | .assigned => { declarations with assigned := true }
  | .function => declarations

def collides (declarations : Declarations) : Bool :=
  1 < declarations.parameters + declarations.assigned.toNat

/-- Count a symbol under its name and scope. A pair that is new goes to the end. -/
def record (symbol : Symbol) : List Declarations → List Declarations
  | [] => [add ⟨symbol.name, symbol.scope, 0, false⟩ symbol.kind]
  | first :: rest =>
    if first.name = symbol.name ∧ first.scope = symbol.scope then
      first.add symbol.kind :: rest
    else first :: record symbol rest

/-- The declarations of a log, in the order in which the pairs of name and scope first come
up. -/
def ofLog (log : List Symbol) : List Declarations :=
  log.foldl (fun groups symbol => record symbol groups) []

/-- The first colliding scope of every colliding name. -/
def collisions (groups : List Declarations) (reported : List String) : List Warning :=
  match groups with
  | [] => []
  | first :: rest =>
    if first.collides && !reported.contains first.name then
      .definedTwice first.name first.scope :: collisions rest (first.name :: reported)
    else collisions rest reported

end Declarations

namespace Subject

def scopeCollision (subject : Subject) (output : Findings) : Findings :=
  let collisions := Declarations.collisions (Declarations.ofLog subject.table.definitions) []
  let output := output.addVerdict
    ⟨"variables have correct scope (no collisions)", collisions.isEmpty, none⟩
  output.addWarnings collisions

def scopeSeparation (subject : Subject) (output : Findings) : Findings :=
  let first := subject.watch.scopePair.1
  let second := subject.watch.scopePair.2
  let shared := match subject.table.lookup first, subject.table.lookup second with
    | some a, some b => a.scope == b.scope
    | _, _ => false
  output.addVerdict
    ⟨s!"variables '{first}' and '{second}' do not collide (separate scopes)", !shared, none⟩

end Subject
end SnippetCheck

import SnippetCheck.Token.Basic

namespace SnippetCheck.Neighbours

/-- The nearest significant token before an index. -/
def previous (tokens : List Token) (index : Nat) : Option Token :=
  (tokens.take index).reverse.find? Token.isSignificant

/-- The index of the nearest significant token behind an index. -/
def nextIndex (tokens : List Token) (index : Nat) : Option Nat :=
  ((tokens.drop (index + 1)).findIdx? Token.isSignificant).map (index + 1 + ·)

/-- The nearest significant token behind an index. -/
def next (tokens : List Token) (index : Nat) : Option Token :=
  (nextIndex tokens index).bind (tokens[·]?)

/-- Whether the token at an index is the name of a definition. -/
def followsDef (tokens : List Token) (index : Nat) : Bool :=
  (previous tokens index).any (·.isKeyword "def")

/-- Whether the token at an index stands before an opening parenthesis. -/
def opensCall (tokens : List Token) (index : Nat) : Bool :=
  (next tokens index).any (·.isSymbol "(")

/-- Whether the token at an index is the target of an assignment. -/
def isAssigned (tokens : List Token) (index : Nat) : Bool :=
  (next tokens index).any (·.isOperator "=")

/-- Every token with its index. -/
def indexed (tokens : List Token) : List (Nat × Token) :=
  tokens.zipIdx.map fun entry => (entry.2, entry.1)

/-- The identifiers spelled `name`, with their indexes. -/
def occurrences (tokens : List Token) (name : String) : List (Nat × Token) :=
  (indexed tokens).filter (·.2.is .identifier name)

/-- The indexes of the names in the parameter list of the definition whose `def` stands at
`index`. The list ends at the first closing parenthesis or colon. -/
def parametersAfter (tokens : List Token) (index : Nat) : List Nat :=
  match (nextIndex tokens index).bind (nextIndex tokens) with
  | none => []
  | some opening =>
    if tokens[opening]?.any (·.isSymbol "(") then
      (((indexed tokens).drop (opening + 1)).takeWhile fun entry =>
          !(entry.2.isSymbol ")" || entry.2.isSymbol ":"))
        |>.filter (·.2.kind == .identifier) |>.map (·.1)
    else []

/-- The indexes of all names in parameter lists. -/
def parameterIndexes (tokens : List Token) : List Nat :=
  (indexed tokens).flatMap fun entry =>
    if entry.2.isKeyword "def" then parametersAfter tokens entry.1 else []

/-- The indexes of all names in parameter lists, once each and in increasing order. -/
def parameterPositions (tokens : List Token) : List Nat :=
  let found := parameterIndexes tokens
  (List.range tokens.length).filter found.contains

end SnippetCheck.Neighbours

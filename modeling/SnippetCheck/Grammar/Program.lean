import SnippetCheck.Grammar.Statement
import SnippetCheck.Structure.Checks

namespace SnippetCheck.Grammar

/-- How deep statements and expressions may be nested in one another. -/
def maxNestingDepth : Nat :=
  256

/-- Statements up to the end of the tokens. After one that fails, reading goes on where it
stopped; a token at which nothing could be read is passed over. -/
def statements (statement : Reader Node) (tokens : List Token) : List Node × List Diagnostic :=
  match tokens with
  | [] => ([], [])
  | token :: rest =>
    let first := statement (token :: rest)
    let others :=
      if _shorter : first.rest.length < (token :: rest).length then
        statements statement first.rest
      else statements statement rest
    (first.result.toList ++ others.1, first.faults ++ others.2)
termination_by tokens.length
decreasing_by
  · exact _shorter
  · exact Nat.lt_succ_self rest.length

/-- The line that faults at the end of the program are laid to. -/
def lastLine (tokens : List Token) : UInt32 :=
  (tokens.getLast?.map Token.line).getD 1

/-- The statements of a program and the faults found while reading them, from significant
tokens. -/
def descend (tokens : List Token) : List Node × List Diagnostic :=
  statements (statement (lastLine tokens) maxNestingDepth) tokens

/-- The tree of a program and all that is wrong with its form: first what the structure shows,
then what reading finds. There is a tree for every token list. -/
def parse (tokens : List Token) : Node × List Diagnostic :=
  match significantTokens tokens with
  | [] => (.program [], [.noTokens])
  | token :: rest =>
    let found := descend (token :: rest)
    (.program found.1, structuralFaults (token :: rest) ++ found.2)

end SnippetCheck.Grammar

namespace SnippetCheck

/-- What the syntactic stage reports. -/
structure TreeReport where
  valid : Bool
  errors : List String
  tree : Node

def TreeReport.ofTokens (tokens : List Token) : TreeReport :=
  let found := Grammar.parse tokens
  ⟨found.2.isEmpty, found.2.map Diagnostic.message, found.1⟩

end SnippetCheck

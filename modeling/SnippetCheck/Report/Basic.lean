import SnippetCheck.Check.Battery
import SnippetCheck.Grammar.Program
import SnippetCheck.Token.Describe
import SnippetCheck.Token.Lexer

namespace SnippetCheck

/-- The three stages together. -/
structure Report where
  lexical : TokenReport
  syntactic : TreeReport
  semantic : CheckReport
  success : Bool
  message : String

namespace Report

def successMessage : String :=
  "analysis completed successfully"

def failureMessage : String :=
  "analysis completed with errors"

/-- A report is a success if the last two stages found the program valid. Lexical errors do not
count by themselves. -/
def assemble (lexical : TokenReport) (syntactic : TreeReport) (semantic : CheckReport) : Report :=
  let success := syntactic.valid && semantic.valid
  { lexical, syntactic, semantic, success
    message := if success then successMessage else failureMessage }

/-- Every stage runs, whatever the ones before it found. -/
def ofSource (watch : WatchList) (source : String) : Report :=
  let tokens := tokenize source
  let syntactic := TreeReport.ofTokens tokens
  assemble (.ofTokens tokens) syntactic (.of watch Check.all tokens syntactic.tree)

end Report
end SnippetCheck

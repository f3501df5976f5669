namespace SnippetCheck

/-- A bracket that was opened, with the line it stands on. -/
structure OpenBracket where
  bracket : String
  line : UInt32
  deriving DecidableEq

/-- What is wrong with the form of a program. The first three are found while reading by the
grammar, the next three by matching brackets, the three after them by looking at definitions.
At least one bracket is left open: the first is given apart. -/
inductive Diagnostic
  | expectedToken (expected : String) (line : UInt32) (found : String)
  | expectedAtEnd (expected : String)
  | unexpectedToken (found : String) (line : UInt32)
  | unmatchedCloser (bracket : String) (line : UInt32)
  | mismatchedBracket (closer : String) (line : UInt32) (opener : OpenBracket)
  | unclosedBrackets (outermost : OpenBracket) (inner : List OpenBracket)
  | missingFunctionName (line : UInt32)
  | missingParameterList (line : UInt32)
  | missingFunctionColon (line : UInt32)
  | nestingTooDeep (line : UInt32)
  | noTokens
  deriving DecidableEq

def OpenBracket.describe (opened : OpenBracket) : String :=
  s!"'{opened.bracket}' at line {opened.line.toNat}"

namespace Diagnostic

/-- The name of the kind of fault. -/
def name : Diagnostic → String
  | expectedToken .. => "ExpectedToken"
  | expectedAtEnd .. => "ExpectedAtEnd"
  | unexpectedToken .. => "UnexpectedToken"
  | unmatchedCloser .. => "UnmatchedCloser"
  | mismatchedBracket .. => "MismatchedBracket"
  | unclosedBrackets .. => "UnclosedBrackets"
  | missingFunctionName .. => "MissingFunctionName"
  | missingParameterList .. => "MissingParameterList"
  | missingFunctionColon .. => "MissingFunctionColon"
  | nestingTooDeep .. => "NestingTooDeep"
  | noTokens => "NoTokens"

/-- The source line of the fault. What is missing at the end has none. -/
def line : Diagnostic → Option UInt32
  | expectedToken _ line _ => some line
  | expectedAtEnd _ => none
  | unexpectedToken _ line => some line
  | unmatchedCloser _ line => some line
  | mismatchedBracket _ line _ => some line
  | unclosedBrackets outermost _ => some outermost.line
  | missingFunctionName line => some line
  | missingParameterList line => some line
  | missingFunctionColon line => some line
  | nestingTooDeep line => some line
  | noTokens => none

def message : Diagnostic → String
  | expectedToken expected line found =>
    s!"expected {expected} at line {line.toNat}, found '{found}'"
  | expectedAtEnd expected => s!"expected {expected}, found end of input"
  | unexpectedToken found line => s!"unexpected token '{found}' at line {line.toNat}"
  | unmatchedCloser bracket line =>
    s!"closing '{bracket}' at line {line.toNat} has no matching opener"
  | mismatchedBracket closer line opener =>
    s!"closing '{closer}' at line {line.toNat} does not match '{opener.bracket}' " ++
      s!"opened at line {opener.line.toNat}"
  | unclosedBrackets outermost inner =>
    "unclosed brackets: " ++ ", ".intercalate ((outermost :: inner).map OpenBracket.describe)
  | missingFunctionName line => s!"expected function name after 'def' at line {line.toNat}"
  | missingParameterList line => s!"expected '(' after function name at line {line.toNat}"
  | missingFunctionColon line => s!"expected ':' after function signature at line {line.toNat}"
  | nestingTooDeep line => s!"expression nesting too deep at line {line.toNat}"
  | noTokens => "no tokens to analyze"

end Diagnostic

/-- Something a reader of the program should know. No warning makes a program invalid. -/
inductive Warning
  | undefinedName (name : String) (line : UInt32)
  | usedBeforeAssignment (name : String) (line assigned : UInt32)
  | definedTwice (name scope : String)
  deriving DecidableEq

def Warning.message : Warning → String
  | .undefinedName name line => s!"identifier '{name}' used without definition at line {line.toNat}"
  | .usedBeforeAssignment name line assigned =>
    s!"variable '{name}' used at line {line.toNat} before its assignment at line {assigned.toNat}"
  | .definedTwice name scope => s!"variable '{name}' defined multiple times in scope '{scope}'"

/-- What makes a program invalid although its form is right. -/
inductive HardError
  | undefinedFunction (name : String)
  | usedBeforeDefinition (name : String) (line defined : UInt32)
  deriving DecidableEq

def HardError.message : HardError → String
  | .undefinedFunction name => s!"function '{name}' used without definition"
  | .usedBeforeDefinition name line defined =>
    s!"function '{name}' used at line {line.toNat} before its definition at line {defined.toNat}"

end SnippetCheck

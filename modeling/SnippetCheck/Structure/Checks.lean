import SnippetCheck.Diagnostic
import SnippetCheck.Token.Basic

namespace SnippetCheck.Brackets

/-- The opening bracket that a closing one needs. -/
def openerFor : String → Option String
  | ")" => some "("
  | "]" => some "["
  | "\x7d" => some "\x7b"
  | _ => none

def isOpener (text : String) : Bool :=
  text == "(" || text == "[" || text == "\x7b"

/-- What one token does to the brackets that stand open, innermost first. A closer that does
not fit is a fault; every token but a bracket changes nothing. -/
def step (opened : List OpenBracket) (token : Token) : Except Diagnostic (List OpenBracket) :=
  if token.kind = .symbol then
    if isOpener token.text then
      .ok (⟨token.text, token.line⟩ :: opened)
    else
      match openerFor token.text, opened with
      | none, _ => .ok opened
      | some _, [] => .error (.unmatchedCloser token.text token.line)
      | some opener, innermost :: outer =>
        if innermost.bracket = opener then .ok outer
        else .error (.mismatchedBracket token.text token.line innermost)
  else
    .ok opened

/-- Brackets that stand open at the end are one fault together, named from the outermost in. -/
def leftOpen (opened : List OpenBracket) : List Diagnostic :=
  match opened.reverse with
  | [] => []
  | outermost :: inner => [.unclosedBrackets outermost inner]

/-- Match closers with openers over the three kinds of brackets. There is at most one fault:
the first closer that does not fit, else the brackets left open. -/
def check (tokens : List Token) : List Diagnostic :=
  match tokens.foldlM step [] with
  | .error fault => [fault]
  | .ok opened => leftOpen opened

end SnippetCheck.Brackets

namespace SnippetCheck.Signatures

/-- What is wrong with a definition, given the line of its `def` and the tokens behind it: a
name and an opening parenthesis must follow, then a colon somewhere before the next `def`. -/
def fault (line : UInt32) : List Token → Option Diagnostic
  | [] => some (.missingFunctionName line)
  | name :: rest =>
    if name.kind = .identifier then
      if (rest.head?.any (·.isSymbol "(")) then
        if (rest.takeWhile fun token => !token.isKeyword "def").any (·.isSymbol ":") then none
        else some (.missingFunctionColon line)
      else some (.missingParameterList line)
    else some (.missingFunctionName line)

/-- The faults of all definitions, at most one each. -/
def check : List Token → List Diagnostic
  | [] => []
  | token :: rest =>
    (if token.isKeyword "def" then (fault token.line rest).toList else []) ++ check rest

end SnippetCheck.Signatures

namespace SnippetCheck

/-- What can be said about the form of a token list without reading it by the grammar: first
the brackets, then the definitions. -/
def structuralFaults (tokens : List Token) : List Diagnostic :=
  Brackets.check tokens ++ Signatures.check tokens

end SnippetCheck

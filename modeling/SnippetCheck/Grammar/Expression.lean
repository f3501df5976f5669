import SnippetCheck.Grammar.Reader
import SnippetCheck.Tree.Basic

namespace SnippetCheck.Grammar

def comparisonOperators : List String :=
  ["==", "!=", "<", ">", "<=", ">="]

def arithmeticOperators : List String :=
  ["+", "-"]

def termOperators : List String :=
  ["*", "/", "%"]

def isOperatorOf (operators : List String) (token : Token) : Bool :=
  token.kind == .operator && operators.contains token.text

/-- Refuse to go one level deeper. The fault is laid to the next token, or at the end of the
program to the last line. -/
def tooDeep (lastLine : UInt32) : Reader Node :=
  fun tokens => Reader.fail (.nestingTooDeep ((tokens.head?.map Token.line).getD lastLine)) tokens

/-- Operators of one precedence after a first operand, read from left to right. The tree grows
to the left with every operator, and no node of it may be higher than the levels that are free.
`height` is that of `left` once this chain has built it. -/
def chainFrom (free : Nat) (operators : List String) (operand : Reader Node) (left : Node)
    (height : Option Nat) : Reader Node
  | [] => ⟨some left, [], [], List.suffix_refl []⟩
  | operator :: rest =>
    if isOperatorOf operators operator then
      let right := operand rest
      have suffix := right.suffix.trans (List.suffix_cons operator rest)
      match right.result with
      | none => ⟨none, right.rest, right.faults, suffix⟩
      | some node =>
        let below := max (height.getD left.height) node.height
        if free < below + 1 then
          ⟨none, right.rest, right.faults ++ [.nestingTooDeep operator.line], suffix⟩
        else
          let others := chainFrom free operators operand
            (.binary operator.text operator.line left node) (some (below + 1)) right.rest
          ⟨others.result, others.rest, right.faults ++ others.faults,
            others.suffix.trans suffix⟩
    else ⟨some left, operator :: rest, [], List.suffix_refl _⟩
termination_by tokens => tokens.length
decreasing_by exact Nat.lt_succ_of_le right.suffix.length_le

/-- Operands with left-associative operators of one precedence between them. -/
def chain (free : Nat) (operators : List String) (operand : Reader Node) : Reader Node := do
  let first ← operand
  chainFrom free operators operand first none

/-- The arguments of a call, from the opening parenthesis on. -/
def call (expression : Reader Node) (callee : Token) : Reader Node := do
  Reader.skip
  let arguments ← Reader.commaSeparated expression
  let _ ← Reader.symbol ")"
  return .mk .functionCall callee.text callee.line arguments

/-- A literal, a name, a call, or an expression in parentheses. `print` is a reserved word that
can be called all the same. -/
def factor (expression : Reader Node) : Reader Node := do
  match ← Reader.peek with
  | none => Reader.fail (.expectedAtEnd "expression")
  | some token =>
    if token.kind = .number then
      Reader.skip
      return .leaf .number token.text token.line
    else if token.kind = .string then
      Reader.skip
      return .leaf .string token.text token.line
    else if token.kind = .identifier then
      Reader.skip
      if ← Reader.next (·.isSymbol "(") then
        call expression token
      else
        return .leaf .identifier token.text token.line
    else if token.isKeyword "print" && (← Reader.second (·.isSymbol "(")) then
      Reader.skip
      call expression token
    else if token.isSymbol "(" then
      Reader.skip
      let inner ← expression
      let _ ← Reader.symbol ")"
      return inner
    else
      Reader.fail (.unexpectedToken token.text token.line)

def term (free : Nat) (expression : Reader Node) : Reader Node :=
  chain free termOperators (factor expression)

def arithmetic (free : Nat) (expression : Reader Node) : Reader Node :=
  chain free arithmeticOperators (term free expression)

/-- At most one comparison: `a < b < c` stops before the second sign. -/
def comparison (free : Nat) (expression : Reader Node) : Reader Node := do
  let left ← arithmetic free expression
  match ← Reader.accept (isOperatorOf comparisonOperators) with
  | none => return left
  | some operator =>
    let right ← arithmetic free expression
    return .binary operator.text operator.line left right

/-- An expression that may be nested as deep as there are free levels, itself included. -/
def expression (lastLine : UInt32) : (free : Nat) → Reader Node
  | 0 => tooDeep lastLine
  | free + 1 => comparison free (expression lastLine free)

end SnippetCheck.Grammar

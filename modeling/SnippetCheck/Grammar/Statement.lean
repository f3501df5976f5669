import SnippetCheck.Grammar.Expression

namespace SnippetCheck.Grammar

/-- Statements until one of the stop tokens, the end, or a statement that fails. A failed
statement ends the body without failing it. Every statement that is read takes a token, so the
comparison of lengths only shows that the body comes to an end. -/
def block (stop : Token → Bool) (statement : Reader Node) : Reader (List Node)
  | [] => ⟨some [], [], [], List.suffix_refl []⟩
  | token :: rest =>
    if stop token then ⟨some [], token :: rest, [], List.suffix_refl _⟩
    else
      let first := statement (token :: rest)
      match first.result with
      | none => ⟨some [], first.rest, first.faults, first.suffix⟩
      | some node =>
        if _shorter : first.rest.length < (token :: rest).length then
          let others := block stop statement first.rest
          ⟨others.result.map (node :: ·), others.rest, first.faults ++ others.faults,
            others.suffix.trans first.suffix⟩
        else ⟨some [node], first.rest, first.faults, first.suffix⟩
termination_by tokens => tokens.length
decreasing_by exact _shorter

def parameter (name : Token) : Node :=
  .leaf .parameter name.text name.line

/-- A definition, from its `def` on. Faults in the parameter list do not stop it. The node is
placed on the line of the name. -/
def functionDef (statement : Reader Node) : Reader Node := do
  Reader.skip
  let name ← Reader.name "function name"
  let _ ← Reader.symbol "("
  let parameters ← Reader.commaSeparated (Reader.name "parameter name").attempt
  let _ ← Reader.symbol ")"
  let _ ← Reader.symbol ":"
  let body ← block (·.isKeyword "def") statement
  return .mk .functionDef name.text name.line
    ((parameters.filterMap id).map parameter ++ body)

/-- A conditional, from its `if` on. The first child is the condition; the statements of both
bodies follow in one list. -/
def ifStatement (statement expression : Reader Node) (keyword : Token) : Reader Node := do
  Reader.skip
  let condition ← expression
  let _ ← Reader.symbol ":"
  let thenBody ← block (fun token => token.isKeyword "else" || token.isKeyword "def") statement
  if ← Reader.next (·.isKeyword "else") then
    Reader.skip
    let _ ← Reader.symbol ":"
    let elseBody ← block (·.isKeyword "def") statement
    return .mk .ifStatement "" keyword.line (condition :: (thenBody ++ elseBody))
  else
    return .mk .ifStatement "" keyword.line (condition :: thenBody)

/-- A `return`. Whatever follows belongs to it, unless it is a keyword or the end. -/
def returnStatement (expression : Reader Node) (keyword : Token) : Reader Node := do
  Reader.skip
  if ← Reader.next (·.kind != .keyword) then
    let value ← expression
    return .mk .returnStatement "" keyword.line [value]
  else
    return .leaf .returnStatement "" keyword.line

def assignment (expression : Reader Node) (name : Token) : Reader Node := do
  Reader.skip
  Reader.skip
  let value ← expression
  return .mk .assignment name.text name.line [value]

/-- A statement, told apart by its first token; only an assignment needs the second. -/
def statementOf (statement expression : Reader Node) : Reader Node := do
  match ← Reader.peek with
  | none => expression
  | some token =>
    if token.isKeyword "def" then
      functionDef statement
    else if token.isKeyword "if" then
      ifStatement statement expression token
    else if token.isKeyword "return" then
      returnStatement expression token
    else if token.kind == .identifier && (← Reader.second (·.isOperator "=")) then
      assignment expression token
    else
      expression

/-- A statement that may be nested as deep as there are free levels, itself included. -/
def statement (lastLine : UInt32) : (free : Nat) → Reader Node
  | 0 => tooDeep lastLine
  | free + 1 => statementOf (statement lastLine free) (expression lastLine free)

end SnippetCheck.Grammar

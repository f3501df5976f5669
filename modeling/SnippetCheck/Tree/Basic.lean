import SnippetCheck.Text.Render

namespace SnippetCheck

/-- The kinds of nodes of a syntax tree. -/
inductive NodeKind
  | program
  | functionDef
  | parameter
  | ifStatement
  | returnStatement
  | assignment
  | binaryOp
  | functionCall
  | identifier
  | number
  | string
  deriving DecidableEq

namespace NodeKind

/-- Every kind once, in the order of the error texts that list them. -/
def all : List NodeKind :=
  [program, functionDef, parameter, ifStatement, returnStatement, assignment, binaryOp,
   functionCall, identifier, number, string]

/-- The name a kind has in reports. -/
def name : NodeKind → String
  | program => "Program"
  | functionDef => "FunctionDef"
  | parameter => "Parameter"
  | ifStatement => "IfStatement"
  | returnStatement => "ReturnStatement"
  | assignment => "Assignment"
  | binaryOp => "BinaryOp"
  | functionCall => "FunctionCall"
  | identifier => "Identifier"
  | number => "Number"
  | string => "String"

/-- The kind of a node stands in a column as it is, neither cut nor widened. -/
def inColumn (_ : Text.Field) (kind : NodeKind) : String :=
  kind.name

theorem mem_all (kind : NodeKind) : kind ∈ all := by
  cases kind <;> decide

end NodeKind

/-- A syntax tree. All nodes have one shape: what the value says (a name, a literal, an
operator, or nothing) and how many children there are depends on the kind. The line is the one
the construct starts on. -/
inductive Node
  | mk (kind : NodeKind) (value : String) (line : UInt32) (children : List Node)

namespace Node

def kind : Node → NodeKind
  | mk kind _ _ _ => kind

def value : Node → String
  | mk _ value _ _ => value

def line : Node → UInt32
  | mk _ _ line _ => line

def children : Node → List Node
  | mk _ _ _ children => children

def leaf (kind : NodeKind) (value : String) (line : UInt32) : Node :=
  mk kind value line []

/-- The root above the statements of a program. It starts on the line of the first. -/
def program (statements : List Node) : Node :=
  mk .program "" ((statements.head?.map line).getD 1) statements

def binary (operator : String) (line : UInt32) (left right : Node) : Node :=
  mk .binaryOp operator line [left, right]

def childrenOfKind (node : Node) (kind : NodeKind) : List Node :=
  node.children.filter (·.kind == kind)

/-- The parameters of a function definition in order. Other nodes have none. -/
def parameterNames (node : Node) : List String :=
  if node.kind = .functionDef then (node.childrenOfKind .parameter).map value else []

mutual
/-- The number of levels. A leaf has one. -/
def height : Node → Nat
  | mk _ _ _ children => heightOfAll children + 1

/-- The number of levels of the highest tree of a list. -/
def heightOfAll : List Node → Nat
  | [] => 0
  | node :: rest => max node.height (heightOfAll rest)
end

theorem height_pos (node : Node) : 0 < node.height := by
  cases node
  exact Nat.succ_pos _

theorem height_binary (operator : String) (line : UInt32) (left right : Node) :
    (binary operator line left right).height = max left.height right.height + 1 := by
  simp [binary, height, heightOfAll]

end Node
end SnippetCheck

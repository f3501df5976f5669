import SnippetCheck.Grammar.Program
import SnippetCheck.Json.Record
import SnippetCheck.Json.Write

namespace SnippetCheck

open Json (Reader Shape)

namespace NodeKind

def named : List (String × NodeKind) :=
  all.map fun kind => (kind.name, kind)

def toJson (kind : NodeKind) : Json :=
  .string kind.name

def reader (levels : Nat) : Reader NodeKind :=
  Reader.variant named levels

end NodeKind

namespace Node

mutual
/-- An empty value and an empty list of children are left out. -/
def toJson : Node → Json
  | mk kind value line children =>
    .object
      ([("type", kind.toJson)] ++
        (if value.isEmpty then [] else [("value", .string value)]) ++
        (if children.isEmpty then [] else [("children", .array (toJsonAll children))]) ++
        [("line", .number line.toNat)])

def toJsonAll : List Node → List Json
  | [] => []
  | node :: rest => node.toJson :: toJsonAll rest
end

/-- The shape of a node, given how to read its children. -/
def shape (children : Reader (List Node)) (levels : Nat) : Shape Node where
  name := "AstNode"
  blank := .leaf .program "" 0
  fields :=
    [⟨"type", false, do
        let kind ← NodeKind.reader levels
        return fun node => mk kind node.value node.line node.children⟩,
     ⟨"value", true, do
        let value ← Reader.string
        return fun node => mk node.kind value node.line node.children⟩,
     ⟨"children", true, do
        let children ← children
        return fun node => mk node.kind node.value node.line children⟩,
     ⟨"line", false, do
        let line ← Reader.word32
        return fun node => mk node.kind node.value line node.children⟩]

/-- A node takes two levels, one for itself and one for the list of its children. With fewer
than two left the list cannot be opened, so there is nothing to say about its items. -/
def reader : (levels : Nat) → (text : List Char) → Except Json.Fault (Json.Taken Node text)
  | 0, text => (shape (Reader.list (fun _ => Reader.fail .tooDeep) 0) 0).reader 0 text
  | 1, text => (shape (Reader.list (fun _ => Reader.fail .tooDeep) 0) 0).reader 1 text
  | levels + 2, text =>
    (shape (Reader.list (fun _ => reader levels) (levels + 1)) (levels + 1)).reader (levels + 2)
      text

end Node

namespace TreeReport

def toJson (report : TreeReport) : Json :=
  .object
    [("valid", .bool report.valid), ("errors", .strings report.errors),
     ("ast", report.tree.toJson)]

def shape (levels : Nat) : Shape TreeReport where
  name := "SyntaxReport"
  blank := ⟨false, [], .program []⟩
  fields :=
    [⟨"valid", false, do let valid ← Reader.bool; return ({ · with valid })⟩,
     ⟨"errors", false, do
        let errors ← Reader.list (fun _ => Reader.string) levels; return ({ · with errors })⟩,
     ⟨"ast", false, do let tree ← (Node.reader levels : Reader Node); return ({ · with tree })⟩]

def reader (levels : Nat) : Reader TreeReport :=
  (shape (levels - 1)).reader levels

end TreeReport
end SnippetCheck

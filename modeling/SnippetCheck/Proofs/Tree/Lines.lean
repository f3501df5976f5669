import Mathlib.Data.List.Forall2
import SnippetCheck.Tree.Basic

namespace SnippetCheck.Node

mutual
/-- A tree without its line numbers. -/
def eraseLines : Node → Node
  | mk kind value _ children => mk kind value 0 (eraseLinesOfAll children)

def eraseLinesOfAll : List Node → List Node
  | [] => []
  | node :: rest => node.eraseLines :: eraseLinesOfAll rest
end

mutual
theorem height_eraseLines : (node : Node) → node.eraseLines.height = node.height
  | mk _ _ _ children => congrArg (· + 1) (heightOfAll_eraseLinesOfAll children)

theorem heightOfAll_eraseLinesOfAll : (nodes : List Node) →
    heightOfAll (eraseLinesOfAll nodes) = heightOfAll nodes
  | [] => rfl
  | node :: rest => by
    rw [eraseLinesOfAll, heightOfAll, heightOfAll, height_eraseLines node,
      heightOfAll_eraseLinesOfAll rest]
end

/-- Trees that differ in their line numbers at most. -/
def SameShape (node node' : Node) : Prop :=
  node.eraseLines = node'.eraseLines

namespace SameShape

variable {node node' : Node} {nodes nodes' : List Node} {line line' : UInt32}

theorem height_eq (same : SameShape node node') : node.height = node'.height := by
  rw [← node.height_eraseLines, same, node'.height_eraseLines]

theorem eraseLinesOfAll_eq (same : List.Forall₂ SameShape nodes nodes') :
    eraseLinesOfAll nodes = eraseLinesOfAll nodes' := by
  induction same with
  | nil => rfl
  | cons first _ ih => rw [eraseLinesOfAll, eraseLinesOfAll, ih, first]

theorem mk (kind : NodeKind) (value : String) (below : List.Forall₂ SameShape nodes nodes') :
    SameShape (.mk kind value line nodes) (.mk kind value line' nodes') := by
  rw [SameShape, eraseLines, eraseLines, eraseLinesOfAll_eq below]

theorem leaf (kind : NodeKind) (value : String) :
    SameShape (.leaf kind value line) (.leaf kind value line') :=
  .mk kind value .nil

end SameShape
end SnippetCheck.Node

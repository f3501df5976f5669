import SnippetCheck.Tree.Basic

namespace SnippetCheck.Node

mutual
/-- A node and all below it, parents before children and siblings in order. -/
def preOrder : Node → List Node
  | mk kind value line children => mk kind value line children :: preOrderOfAll children

def preOrderOfAll : List Node → List Node
  | [] => []
  | node :: rest => node.preOrder ++ preOrderOfAll rest
end

mutual
/-- The nodes that a visitor meets, in order: all in pre-order, save what hangs below a name
reference. A tree read from a program has nothing there. -/
def visited : Node → List Node
  | mk kind value line children =>
    mk kind value line children :: if kind = .identifier then [] else visitedInAll children

def visitedInAll : List Node → List Node
  | [] => []
  | node :: rest => node.visited ++ visitedInAll rest
end

end SnippetCheck.Node

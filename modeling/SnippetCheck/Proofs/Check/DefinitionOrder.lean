import Mathlib.Data.List.Basic
import SnippetCheck.Check.Battery
import SnippetCheck.Proofs.Symbol.Latest
import SnippetCheck.Proofs.Tree.WellFormed
import SnippetCheck.Token.Lexer

namespace SnippetCheck

/-- The uses of a name: its identifiers that are not the name of a definition. -/
def Neighbours.uses (tokens : List Token) (name : String) : List Token :=
  ((occurrences tokens name).filter fun entry => !followsDef tokens entry.1).map Prod.snd

/-- The line of an entry of the definition log, if it is that of a function. -/
def functionLine (entry : String × SymbolKind × UInt32) : Option UInt32 :=
  if entry.2.1 = .function then some entry.2.2 else none

theorem SymbolTable.lookupKind_line (table : SymbolTable) (name : String) :
    (table.lookupKind name .function).map Symbol.line =
      ((table.lookup name).map Symbol.entry).bind functionLine := by
  rw [lookupKind]
  cases table.lookup name with
  | none => rfl
  | some symbol =>
    by_cases function : symbol.kind = .function <;>
      simp [Option.filter, Symbol.entry, functionLine, function]

namespace Node

/-- The last definition of a name, if it is a function. -/
def lastFunction (root : Node) (name : String) : Option Node :=
  (root.lastDefinition name).filter (·.kind == .functionDef)

/-- The last definition of a name is a function, and on a line before the given one. -/
def DefinesBefore (root : Node) (name : String) (line : UInt32) : Prop :=
  ∃ node, root.lastFunction name = some node ∧ node.line < line

theorem entry?_functionLine (node : Node) :
    node.entry?.bind functionLine = if node.kind = .functionDef then some node.line else none := by
  cases role : node.kind <;> simp [Node.entry?, NodeKind.defines, functionLine, role]

/-- Asked for a function of a name, the table has the line of the last definition in the tree, and
none if that is no function. -/
theorem IsProgram.lookupKind_line {tree : Node} (shape : tree.IsProgram) (name : String) :
    ((collectSymbols tree).table.lookupKind name .function).map Symbol.line =
      (tree.lastFunction name).map line := by
  rw [SymbolTable.lookupKind_line, shape.lookup_entry, lastFunction]
  cases tree.lastDefinition name with
  | none => rfl
  | some node =>
    rw [Option.bind_some, entry?_functionLine]
    by_cases function : node.kind = .functionDef <;> simp [Option.filter, function]

end Node

namespace Subject

theorem targetUses_eq (subject : Subject) :
    subject.targetUses =
      (Neighbours.uses subject.tokens subject.watch.targetFunction).map Token.line := by
  rw [targetUses, Neighbours.uses, List.map_map, ← List.filterMap_eq_map, List.filterMap_filter]
  refine List.filterMap_congr fun entry _ => ?_
  cases Neighbours.followsDef subject.tokens entry.1 <;> rfl

/-- There is no fault in the uses if each lies behind the recorded line of the function. -/
theorem targetError_eq_none_iff (subject : Subject) :
    subject.targetError = none ↔
      ∀ use ∈ Neighbours.uses subject.tokens subject.watch.targetFunction,
        ∃ line, (subject.table.lookupKind subject.watch.targetFunction .function).map Symbol.line =
          some line ∧ line < use.line := by
  rw [targetError, targetUses_eq]
  cases Neighbours.uses subject.tokens subject.watch.targetFunction with
  | nil => simp
  | cons first others =>
    cases subject.table.lookupKind subject.watch.targetFunction .function with
    | none =>
      have noLine :
          ¬ ∀ use ∈ first :: others, ∃ line : UInt32, none = some line ∧ line < use.line :=
        fun each => by simpa using each first List.mem_cons_self
      simpa using noLine
    | some symbol => simp [List.find?_eq_none]

end Subject

section Verdict

variable (tokens : List Token) (watch : WatchList)

/-- What a check looks at when the symbols are those of the tree that the tokens are read as. -/
def Subject.ofTokens : Subject :=
  ⟨tokens, (collectSymbols (TreeReport.ofTokens tokens).tree).table, watch⟩

/-- Every use of a name lies behind its last definition, which is one of a function. -/
def UsedInOrder (tokens : List Token) (name : String) : Prop :=
  ∀ use ∈ Neighbours.uses tokens name,
    (TreeReport.ofTokens tokens).tree.DefinesBefore name use.line

theorem Subject.targetError_ofTokens :
    (Subject.ofTokens tokens watch).targetError = none ↔
      UsedInOrder tokens watch.targetFunction := by
  rw [targetError_eq_none_iff, ofTokens,
    (Grammar.isProgram_ofTokens tokens).lookupKind_line watch.targetFunction]
  simp only [UsedInOrder, Node.DefinesBefore, Option.map_eq_some_iff]
  refine forall₂_congr fun use _ => ?_
  constructor
  · rintro ⟨line, ⟨node, last, rfl⟩, before⟩
    exact ⟨node, last, before⟩
  · rintro ⟨node, last, before⟩
    exact ⟨node.line, ⟨node, last, rfl⟩, before⟩

/-- The verdict on the order of definition and use. It is placed on the last definition. -/
def orderVerdict (passed : Bool) : Verdict where
  description := s!"function '{watch.targetFunction}' is defined before use"
  passed := passed
  line := ((TreeReport.ofTokens tokens).tree.lastFunction watch.targetFunction).map Node.line

theorem definedBeforeUse_eq :
    Check.run (Subject.ofTokens tokens watch) .definedBeforeUse =
      ⟨[orderVerdict tokens watch (Subject.ofTokens tokens watch).targetError.isNone], [],
        (Subject.ofTokens tokens watch).targetError.toList⟩ := by
  rw [orderVerdict,
    ← (Grammar.isProgram_ofTokens tokens).lookupKind_line watch.targetFunction]
  rfl

/-- The check passes without an error if every use of the watched function lies behind the last
definition of that name, and otherwise it fails with one error. Definitions before the last one
count for nothing, nor does a function whose name is a variable or a parameter later on. -/
theorem definedBeforeUse_lastDefinition :
    (Check.run (Subject.ofTokens tokens watch) .definedBeforeUse =
        ⟨[orderVerdict tokens watch true], [], []⟩ ↔ UsedInOrder tokens watch.targetFunction) ∧
      (¬ UsedInOrder tokens watch.targetFunction →
        ∃ error, Check.run (Subject.ofTokens tokens watch) .definedBeforeUse =
          ⟨[orderVerdict tokens watch false], [], [error]⟩) := by
  have order := Subject.targetError_ofTokens tokens watch
  rw [definedBeforeUse_eq]
  cases fault : (Subject.ofTokens tokens watch).targetError with
  | none =>
    have inOrder := order.mp fault
    exact ⟨⟨fun _ => inOrder, fun _ => rfl⟩, fun outOfOrder => absurd inOrder outOfOrder⟩
  | some error =>
    have outOfOrder : ¬ UsedInOrder tokens watch.targetFunction := fun inOrder => by
      simpa [fault] using order.mpr inOrder
    exact ⟨⟨fun same => by simp at same, fun inOrder => absurd inOrder outOfOrder⟩,
      fun _ => ⟨error, rfl⟩⟩

/-- A function is used between two definitions of it. -/
def redefiningSource : String :=
  "def factorial(n):\n  return n\nfactorial(3)\ndef factorial(n):\n  return n"

/-- A definition before every use is not enough: the check asks for the last one. -/
theorem definedBeforeUse_redefined :
    (TreeReport.ofTokens (tokenize redefiningSource)).valid = true ∧
    (∀ use ∈ Neighbours.uses (tokenize redefiningSource) "factorial",
      ∃ node ∈ (TreeReport.ofTokens (tokenize redefiningSource)).tree.preOrder,
        node.kind = .functionDef ∧ node.value = "factorial" ∧ node.line < use.line) ∧
    Check.run (Subject.ofTokens (tokenize redefiningSource) {}) .definedBeforeUse =
      ⟨[⟨"function 'factorial' is defined before use", false, some 4⟩], [],
        [.usedBeforeDefinition "factorial" 3 4]⟩ :=
  ⟨by decide +kernel, by decide +kernel, by decide +kernel⟩

end Verdict
end SnippetCheck

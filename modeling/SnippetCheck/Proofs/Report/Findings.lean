import SnippetCheck.Proofs.Check.Collisions
import SnippetCheck.Proofs.Check.Independence
import SnippetCheck.Proofs.Check.UsageOrder
import SnippetCheck.Proofs.Lists
import SnippetCheck.Proofs.Report.OneLine
import SnippetCheck.Proofs.Symbol.Traversal
import SnippetCheck.Proofs.Token.Printing
import SnippetCheck.Proofs.Tree.Provenance

namespace SnippetCheck

section Tokens

/-- Only strings and newlines hold a line feed. -/
theorem Lexeme.Begins.notMem_feed {text : List Char} {lexeme : Lexeme}
    (begins : Begins text lexeme) (noString : lexeme.kind ≠ .string)
    (noNewline : lexeme.kind ≠ .newline) : '\n' ∉ lexeme.text := by
  rcases begins with munches | @⟨c, rest, none⟩
  · cases munches with
    | newline => exact absurd rfl noNewline
    | comment longest => exact longest.spelled.notMem
    | keyword longest | name longest => exact longest.spelled.notMem isFence_feed
    | number longest => exact longest.spelled.notMem isFence_feed
    | literal | openLiteral => exact absurd rfl noString
    | symbol isMark =>
      rintro (_ | ⟨_, ⟨⟩⟩)
      exact absurd isMark (by decide)
    | operator longest => exact isFence_feed.sign _ longest.spelled
  · rintro (_ | ⟨_, ⟨⟩⟩)
    exact none _ .newline

/-- Of the tokens that the grammar reads, literals alone may go over several lines. -/
theorem oneLine_of_mem_tokenize {source : String} {token : Token}
    (member : token ∈ significantTokens (tokenize source)) (noString : token.kind ≠ .string) :
    OneLine token.text := by
  obtain ⟨there, significant⟩ := List.mem_filter.mp member
  obtain ⟨lexemes, lexes, held⟩ := (Cursor.ofSource source).lexes
  obtain ⟨lexeme, within, holds⟩ := exists_of_forall₂ held there
  obtain ⟨text, begins⟩ := lexes.begins lexeme within
  have noNewline : token.kind ≠ .newline := by
    intro newline
    simp [Token.isSignificant, Token.isTrivia, newline] at significant
  rw [OneLine, holds.text, String.toList_ofList]
  exact begins.notMem_feed (holds.kind ▸ noString) (holds.kind ▸ noNewline)

end Tokens

section Names

/-- The nodes that are called by a name: what is defined, and what is read. -/
def Node.isNamed (node : Node) : Bool :=
  node.kind.defines.isSome || node.kind == .identifier

/-- The name in a node is the text of the identifier that it was made from. -/
theorem Token.Carries.name {token : Token} {node : Node} (carries : token.Carries node)
    (named : node.isNamed = true) : token.kind = .identifier ∧ token.text = node.value := by
  obtain ⟨kind, value, line, children⟩ := node
  obtain ⟨-, carried⟩ := carries
  cases kind with
  | functionDef | parameter | assignment | identifier => exact carried
  | _ => cases named

/-- Every node of a program that is not its root comes from a token. -/
theorem exists_carries {tokens : List Token} {node : Node}
    (member : node ∈ (TreeReport.ofTokens tokens).tree.readingOrder) :
    ∃ token ∈ significantTokens tokens, token.Carries node := by
  obtain ⟨kept, keeps⟩ := (Grammar.statements_reads (Grammar.lastLine (significantTokens tokens))
    Grammar.maxNestingDepth (significantTokens tokens)).keeps
  rw [Grammar.tree_eq_descend, Node.readingOrder_program] at member
  obtain ⟨token, within, carries⟩ := exists_of_forall₂ keeps.carries.flip member
  exact ⟨token, keeps.sublist.subset within, carries⟩

/-- Names in the tree are those of tokens, so each takes one line. -/
theorem oneLine_of_isNamed {source : String} {node : Node}
    (member : node ∈ (TreeReport.ofTokens (tokenize source)).tree.preOrder)
    (named : node.isNamed = true) : OneLine node.value := by
  let pick (node : Node) : Option Node := if node.isNamed then some node else none
  have order := @Node.preOrder_filterMap _ pick
    (fun node root => by simp [pick, Node.isNamed, root, NodeKind.defines])
    (fun node operator => by simp [pick, Node.isNamed, operator, NodeKind.defines])
    (TreeReport.ofTokens (tokenize source)).tree
  have picked : node ∈ (TreeReport.ofTokens (tokenize source)).tree.readingOrder.filterMap pick :=
    order ▸ List.mem_filterMap.mpr ⟨node, member, if_pos named⟩
  obtain ⟨same, there, found⟩ := List.mem_filterMap.mp picked
  obtain ⟨-, rfl⟩ : same.isNamed = true ∧ same = node := by simpa [pick] using found
  obtain ⟨token, within, carries⟩ := exists_carries there
  obtain ⟨kind, text⟩ := carries.name named
  exact text ▸ oneLine_of_mem_tokenize within (by simp [kind])

/-- What is met keeps to one line, with the scope it is met in. -/
def Visit.OneLine : Visit → Prop
  | definition symbol => SnippetCheck.OneLine symbol.name ∧ SnippetCheck.OneLine symbol.scope
  | read name _ => SnippetCheck.OneLine name

end Names

namespace Node

/-- The names in trees keep to one line. -/
def PlainNames (nodes : List Node) : Prop :=
  ∀ node ∈ nodes, node.isNamed = true → OneLine node.value

theorem oneLine_innerScope {outer name : String} (first : OneLine outer) (second : OneLine name) :
    OneLine (innerScope outer name) := by
  have dot : OneLine "." := by decide
  simp [innerScope, first, second, dot]

mutual
/-- What is met in a tree takes one line if the names in it and the scope around it do. -/
theorem oneLine_visits {scope : String} (outside : OneLine scope) (tree : Node)
    (plain : PlainNames tree.preOrder) : ∀ visit ∈ tree.visits scope, visit.OneLine := by
  match tree with
  | .mk kind name line children =>
    obtain ⟨here, below⟩ := List.forall_mem_cons.mp plain
    cases kind with
    | functionDef =>
      exact List.forall_mem_cons.mpr ⟨⟨here rfl, outside⟩,
        oneLine_visitsInBody (oneLine_innerScope outside (here rfl)) children below⟩
    | assignment =>
      exact List.forall_mem_cons.mpr ⟨⟨here rfl, outside⟩,
        oneLine_visitsInAll outside children below⟩
    | identifier => exact List.forall_mem_singleton.mpr (here rfl)
    | _ => exact oneLine_visitsInAll outside children below

theorem oneLine_visitsInAll {scope : String} (outside : OneLine scope) (trees : List Node)
    (plain : PlainNames (preOrderOfAll trees)) :
    ∀ visit ∈ visitsInAll scope trees, visit.OneLine := by
  match trees with
  | [] => nofun
  | first :: rest =>
    obtain ⟨here, later⟩ := List.forall_mem_append.mp plain
    exact List.forall_mem_append.mpr ⟨oneLine_visits outside first here,
      oneLine_visitsInAll outside rest later⟩

theorem oneLine_visitsInBody {scope : String} (outside : OneLine scope) (trees : List Node)
    (plain : PlainNames (preOrderOfAll trees)) :
    ∀ visit ∈ visitsInBody scope trees, visit.OneLine := by
  match trees with
  | [] => nofun
  | first :: rest =>
    obtain ⟨here, later⟩ := List.forall_mem_append.mp plain
    refine List.forall_mem_append.mpr ⟨?_, oneLine_visitsInBody outside rest later⟩
    split
    · next parameter =>
      have named : first.isNamed = true := by simp [isNamed, parameter, NodeKind.defines]
      exact List.forall_mem_singleton.mpr ⟨here first first.self_mem_preOrder named, outside⟩
    · exact oneLine_visits outside first here
end

end Node

/-- The names that a warning shows. -/
def Warning.texts : Warning → List String
  | undefinedName name _ => [name]
  | usedBeforeAssignment name _ _ => [name]
  | definedTwice name scope => [name, scope]

/-- A warning adds no line feed to the texts that stand in it. -/
theorem Warning.oneLine_message {warning : Warning} :
    OneLine warning.message ↔ ∀ text ∈ warning.texts, OneLine text := by
  unfold message texts
  cases warning <;>
    · simp only [oneLine_append, oneLine_toString, Nat.toString_eq_repr, oneLine_repr]
      simp [OneLine]

/-- The function that an error is about. -/
def HardError.function : HardError → String
  | undefinedFunction name => name
  | usedBeforeDefinition name _ _ => name

theorem HardError.oneLine_message {error : HardError} :
    OneLine error.message ↔ OneLine error.function := by
  unfold message function
  cases error <;>
    · simp only [oneLine_append, oneLine_toString, Nat.toString_eq_repr, oneLine_repr]
      simp [OneLine]

/-- A subject from which no text can be taken that goes over several lines. -/
structure Subject.IsPlain (subject : Subject) : Prop where
  names : ∀ token ∈ subject.tokens, token.kind = .identifier → OneLine token.text
  symbols : ∀ symbol ∈ subject.table.definitions, OneLine symbol.name ∧ OneLine symbol.scope
  function : OneLine subject.watch.targetFunction
  parameter : OneLine subject.watch.trackedParameter
  builtin : OneLine subject.watch.callBuiltin
  pair : OneLine subject.watch.scopePair.1 ∧ OneLine subject.watch.scopePair.2

/-- Findings that take a line each. -/
structure Findings.OneLine (findings : Findings) : Prop where
  verdicts : ∀ verdict ∈ findings.verdicts, SnippetCheck.OneLine verdict.description
  warnings : ∀ warning ∈ findings.warnings, SnippetCheck.OneLine warning.message
  errors : ∀ error ∈ findings.errors, SnippetCheck.OneLine error.message

section Collected

variable {tree : Node} (plain : Node.PlainNames tree.preOrder)

include plain

/-- The symbols that are recorded have their names and scopes from the tree. -/
theorem oneLine_definitions {symbol : Symbol}
    (member : symbol ∈ (collectSymbols tree).table.definitions) :
    OneLine symbol.name ∧ OneLine symbol.scope := by
  rw [(Collected.records_collectSymbols tree).table, SymbolTable.ofDefinitions_definitions]
    at member
  obtain ⟨visit, there, found⟩ := List.mem_filterMap.mp member
  have oneLine := tree.oneLine_visits (by decide) plain visit there
  cases visit with
  | definition =>
    cases found
    exact oneLine
  | read => cases found

theorem oneLine_collectedWarnings {warning : Warning}
    (member : warning ∈ (collectSymbols tree).warnings.toList) : OneLine warning.message := by
  rw [(Collected.records_collectSymbols tree).warnings] at member
  obtain ⟨⟨visit, index⟩, there, found⟩ := List.mem_filterMap.mp member
  have oneLine := tree.oneLine_visits (by decide) plain visit (List.fst_mem_of_mem_zipIdx there)
  cases visit with
  | definition => cases found
  | read name line =>
    obtain ⟨-, same⟩ := Option.ite_none_left_eq_some.mp found
    obtain rfl := Option.some.inj same
    exact Warning.oneLine_message.mpr (List.forall_mem_singleton.mpr oneLine)

end Collected

section Findings

theorem oneLine_verdict {description : String} (oneLine : OneLine description) (passed : Bool)
    (line : Option UInt32) : (Subject.verdict description passed line).OneLine :=
  ⟨List.forall_mem_singleton.mpr oneLine, nofun, nofun⟩

variable {subject : Subject} (plain : subject.IsPlain)

include plain

/-- Hard errors name nothing but the function that is watched. -/
theorem oneLine_targetError {error : HardError} (found : subject.targetError = some error) :
    OneLine error.message := by
  refine HardError.oneLine_message.mpr ?_
  simp only [Subject.targetError] at found
  split at found
  · cases found
  · cases found
    exact plain.function
  · obtain ⟨line, -, rfl⟩ := Option.map_eq_some_iff.mp found
    exact plain.function

/-- A warning on the order of use names its token, which is a name. -/
theorem oneLine_warningAt {entry : Nat × Token} {warning : Warning}
    (there : entry ∈ Neighbours.indexed subject.tokens)
    (found : subject.warningAt entry = some warning) : OneLine warning.message := by
  obtain ⟨kind, -, -, first, target, -, -, -, -, rfl⟩ := Subject.warningAt_eq_some_iff.mp found
  have name := plain.names entry.2
    (List.mem_of_getElem? (Neighbours.mem_indexed_iff.mp there)) kind
  exact Warning.oneLine_message.mpr (List.forall_mem_singleton.mpr name)

/-- A warning on a collision names a symbol of the log and its scope. -/
theorem oneLine_scopeCollision {warning : Warning}
    (member : warning ∈ (Check.run subject .scopeCollision).warnings) : OneLine warning.message := by
  obtain ⟨index, symbol, here, -, -, rfl⟩ := (Declarations.collisions_ofLog _).exists_of_mem member
  have both := plain.symbols symbol (List.mem_of_getElem? here)
  exact Warning.oneLine_message.mpr (by simpa [Warning.texts] using both)

theorem Check.oneLine_run (check : Check) : (check.run subject).OneLine := by
  have function := plain.function
  cases check with
  | definedBeforeUse =>
    have verdict : OneLine s!"function '{subject.watch.targetFunction}' is defined before use" := by
      simp +decide [function]
    exact ⟨List.forall_mem_singleton.mpr verdict, nofun, fun error member =>
      oneLine_targetError plain (Option.mem_toList.mp member)⟩
  | usageOrder =>
    rw [run_usageOrder]
    refine ⟨nofun, fun warning member => ?_, nofun⟩
    obtain ⟨entry, there, found⟩ := List.mem_filterMap.mp member
    exact oneLine_warningAt plain there found
  | parameterUsage => exact oneLine_verdict (by simp +decide [plain.parameter]) _ _
  | callArguments => exact oneLine_verdict (by simp +decide [plain.builtin]) _ _
  | recursiveCall => exact oneLine_verdict (by simp +decide [function]) _ _
  | scopeCollision =>
    have verdict : OneLine "variables have correct scope (no collisions)" := by decide
    exact ⟨List.forall_mem_singleton.mpr verdict, fun _ => oneLine_scopeCollision plain, nofun⟩
  | scopeSeparation => exact oneLine_verdict (by simp +decide [plain.pair]) _ _

/-- Findings are put one behind the other, so all take a line if those of each check do. -/
theorem Battery.oneLine_run (battery : Battery) : (battery.run subject).OneLine := by
  induction battery with
  | nil => exact ⟨nofun, nofun, nofun⟩
  | cons check rest ih =>
    rw [run_cons]
    have first := check.oneLine_run plain
    exact ⟨List.forall_mem_append.mpr ⟨first.verdicts, ih.verdicts⟩,
      List.forall_mem_append.mpr ⟨first.warnings, ih.warnings⟩,
      List.forall_mem_append.mpr ⟨first.errors, ih.errors⟩⟩

end Findings

end SnippetCheck

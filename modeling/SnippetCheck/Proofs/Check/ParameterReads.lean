import SnippetCheck.Proofs.Check.Trivia
import SnippetCheck.Proofs.Check.UsageOrder
import SnippetCheck.Proofs.Token.Partition

namespace SnippetCheck

namespace Node

/-- Whether a node reads a name: as a variable, or by a call. -/
def reads (name : String) (node : Node) : Bool :=
  (node.kind == .identifier || node.kind == .functionCall) && node.value == name

/-- Whether a node has a name other than that of a parameter. -/
def mentions (name : String) (node : Node) : Bool :=
  node.reads name || node.definesName name && node.kind != .parameter

theorem value_of_mentions {node : Node} {name : String} (mentions : node.mentions name = true) :
    node.value = name := by
  rcases Bool.or_eq_true_iff.mp mentions with reads | defines
  · exact beq_iff_eq.mp (Bool.and_eq_true_iff.mp reads).2
  · exact beq_iff_eq.mp (Bool.and_eq_true_iff.mp (Bool.and_eq_true_iff.mp defines).1).2

theorem mentions_of_reads {node : Node} {name : String} (reads : node.reads name = true) :
    node.mentions name = true := by
  rw [mentions, reads, Bool.true_or]

/-- The line of a node that mentions a name. -/
def mentionLine? (name : String) (node : Node) : Option UInt32 :=
  if node.mentions name then some node.line else none

/-- The last definition of a name, if it is a parameter. -/
def lastParameter (root : Node) (name : String) : Option Node :=
  (root.lastDefinition name).filter (·.kind == .parameter)

end Node

/-- The line of a name that stands outside of parameter lists. -/
def Place.mentionLine? (name : String) (place : Place) : Option UInt32 :=
  if place.token.is .identifier name && !inSignature place.before then some place.token.line
  else none

theorem Place.parameter_mem_kinds_iff {place : Place} :
    .parameter ∈ place.kinds ↔ inSignature place.before = true := by
  simp [kinds]

section Mentions

variable {token : Token} {node : Node} {name : String}

theorem Token.Carries.mentions_iff (carries : token.Carries node)
    (isName : token.kind = .identifier) :
    node.mentions name = true ↔ token.text = name ∧ node.kind ≠ .parameter := by
  have named := carries.2
  cases role : node.kind <;>
    simp_all [Node.mentions, Node.reads, Node.definesName, NodeKind.defines, isKeyword, is]

/-- A token that makes a mention of a name is the name, unless it is the keyword that can be
called. -/
theorem Token.Carries.isName_of_mentions (carries : token.Carries node)
    (mentions : node.mentions name = true) (noPrint : name ≠ "print") :
    token.kind = .identifier := by
  have named := carries.2
  cases role : node.kind with
  | functionCall =>
    simp only [role] at named
    obtain ⟨callable, text⟩ := named
    refine callable.resolve_right fun print => noPrint ?_
    calc name = node.value := (Node.value_of_mentions mentions).symm
      _ = token.text := text.symm
      _ = "print" := (is_iff.mp print).2
  | _ => simp_all [Node.mentions, Node.reads, Node.definesName, NodeKind.defines]

/-- A place and the node that it makes mention the same names. -/
theorem Place.Makes.mentionLine? {place : Place} (makes : place.Makes node)
    (noPrint : name ≠ "print") : place.mentionLine? name = node.mentionLine? name := by
  have inList (isName : place.token.kind = .identifier) :
      inSignature place.before = true ↔ node.kind = .parameter := by
    rw [← parameter_mem_kinds_iff, makes.kinds isName]
    cases node.kind <;> simp [NodeKind.defines]
  have same : (place.token.is .identifier name && !inSignature place.before) =
      node.mentions name := by
    rw [Bool.eq_iff_iff, Bool.and_eq_true, Token.is_iff, Bool.not_eq_true', ← Bool.not_eq_true]
    constructor
    · rintro ⟨⟨isName, text⟩, outside⟩
      exact (makes.carries.mentions_iff isName).mpr
        ⟨text, fun role => outside ((inList isName).mpr role)⟩
    · intro mentions
      have isName := makes.carries.isName_of_mentions mentions noPrint
      obtain ⟨text, other⟩ := (makes.carries.mentions_iff isName).mp mentions
      exact ⟨⟨isName, text⟩, fun inside => other ((inList isName).mp inside)⟩
  rw [Place.mentionLine?, Node.mentionLine?, same, makes.carries.1]

end Mentions

namespace Neighbours

/-- The lines on which a name stands outside of parameter lists. -/
def mentions (tokens : List Token) (name : String) : List UInt32 :=
  (indexed tokens).filterMap fun entry =>
    if entry.2.is .identifier name && !(parameterIndexes tokens).contains entry.1 then
      some entry.2.line
    else none

theorem mentions_eq (tokens : List Token) (name : String) :
    mentions tokens name =
      (places [] (significantTokens tokens)).flatMap fun place =>
        (place.mentionLine? name).toList := by
  rw [mentions, List.filterMap_eq_flatMap_toList]
  refine flatMap_indexed ?_
  rintro ⟨index, token⟩ member
  by_cases named : token.is .identifier name = true
  · have isName := (Token.is_iff.mp named).1
    rw [contains_parameterIndexes (mem_indexed_iff.mp member) isName,
      if_pos (Token.isSignificant_of_kind isName (by decide))]
    rfl
  · simp [named, Place.mentionLine?, placeAt]

/-- In a program without faults, a name stands outside of parameter lists where a node other than
a parameter mentions it. -/
theorem mentions_eq_preOrder {tokens : List Token} {name : String}
    (valid : (TreeReport.ofTokens tokens).valid = true) (noPrint : name ≠ "print") :
    mentions tokens name =
      (TreeReport.ofTokens tokens).tree.preOrder.filterMap (Node.mentionLine? name) := by
  rw [mentions_eq]
  refine Grammar.flatMap_places_eq valid ?_ (fun _ _ makes => by rw [makes.mentionLine? noPrint])
    ?_ ?_
  · intro place idle
    have unnamed : place.token.is .identifier name = false := by
      rw [← Bool.not_eq_true]
      intro named
      have carrier := Token.isCarrier_of_plain (Token.is_iff.mp named).1 (by decide)
      exact Bool.false_ne_true (idle.symm.trans carrier)
    simp [Place.mentionLine?, unnamed]
  · intro node root
    simp [Node.mentionLine?, Node.mentions, Node.reads, Node.definesName, NodeKind.defines, root]
  · intro node operator
    simp [Node.mentionLine?, Node.mentions, Node.reads, Node.definesName, NodeKind.defines,
      operator]

theorem any_occurrences_eq (tokens : List Token) (name : String) :
    ((occurrences tokens name).any fun entry => !(parameterIndexes tokens).contains entry.1) =
      !(mentions tokens name).isEmpty := by
  rw [Bool.eq_iff_iff, occurrences, List.any_filter, mentions, List.any_eq_true,
    Bool.not_eq_true', ← Bool.not_eq_true, List.isEmpty_iff]
  simp

end Neighbours

open Neighbours

/-- Asked for a parameter of a name, the table has the line of the last definition in the tree, and
none if that is no parameter. -/
theorem Node.IsProgram.lookupKind_parameter {tree : Node} (shape : tree.IsProgram)
    (name : String) :
    ((collectSymbols tree).table.lookupKind name .parameter).map Symbol.line =
      (tree.lastParameter name).map line := by
  have ofSymbol (current : Option Symbol) :
      (current.filter (·.kind == .parameter)).map Symbol.line =
        ((current.map Symbol.entry).filter (·.2.1 == .parameter)).map (·.2.2) := by
    cases current <;> simp [Option.filter, Symbol.entry]
  rw [SymbolTable.lookupKind, ofSymbol, shape.lookup_entry, lastParameter]
  cases tree.lastDefinition name with
  | none => rfl
  | some node =>
    cases role : node.kind <;> simp [Node.entry?, NodeKind.defines, Option.filter, role]

theorem Subject.parameterUsage_eq (tokens : List Token) (watch : WatchList) :
    Check.run (Subject.ofTokens tokens watch) .parameterUsage =
      verdict s!"parameter '{watch.trackedParameter}' is used correctly"
        (((TreeReport.ofTokens tokens).tree.lastParameter watch.trackedParameter).isNone ||
          !(mentions tokens watch.trackedParameter).isEmpty)
        (((TreeReport.ofTokens tokens).tree.lastParameter watch.trackedParameter).map
          Node.line) := by
  have line := (Grammar.isProgram_ofTokens tokens).lookupKind_parameter watch.trackedParameter
  have declared := congrArg Option.isNone line
  rw [Option.isNone_map, Option.isNone_map] at declared
  rw [← line, ← declared, ← any_occurrences_eq]
  rfl

section Sources

variable {source : String} {name : String} {node : Node}

/-- In a program without faults, no reserved word is defined. -/
theorem isReserved_of_definesName (valid : (TreeReport.ofTokens (tokenize source)).valid = true)
    (member : node ∈ (TreeReport.ofTokens (tokenize source)).tree.preOrder)
    (defines : node.definesName name = true) : isReserved name = false := by
  obtain ⟨defining, rfl⟩ : node.kind.defines.isSome = true ∧ node.value = name := by
    simpa [Node.definesName] using defines
  obtain ⟨kind, role⟩ := Option.isSome_iff_exists.mp defining
  have logged : (node.value, kind, node.line) ∈ declared (tokenize source) := by
    rw [← definitions_eq_declared valid, (Grammar.isProgram_ofTokens _).definitions_entry]
    exact List.mem_filterMap.mpr ⟨node, member, by rw [Node.entry?, role]; rfl⟩
  obtain ⟨index, token, found, named, -⟩ := mem_declared_iff.mp logged
  obtain ⟨isName, text⟩ := Token.is_iff.mp named
  exact text ▸ (isReserved_of_mem_tokenize (List.mem_of_getElem? found)).2 isName

theorem isEmpty_mentions_eq_false_iff
    (valid : (TreeReport.ofTokens (tokenize source)).valid = true) (noPrint : name ≠ "print") :
    (mentions (tokenize source) name).isEmpty = false ↔
      ∃ node ∈ (TreeReport.ofTokens (tokenize source)).tree.preOrder,
        node.mentions name = true := by
  rw [mentions_eq_preOrder valid noPrint, ← Bool.not_eq_true, List.isEmpty_iff,
    List.filterMap_eq_nil_iff]
  simp [Node.mentionLine?]

/-- The check passes if the last definition of the name is no parameter, or if the name stands
anywhere outside of parameter lists. -/
theorem parameterUsage_passed_iff
    (valid : (TreeReport.ofTokens (tokenize source)).valid = true) :
    (((TreeReport.ofTokens (tokenize source)).tree.lastParameter name).isNone ||
        !(mentions (tokenize source) name).isEmpty) = true ↔
      (TreeReport.ofTokens (tokenize source)).tree.lastParameter name = none ∨
        ∃ node ∈ (TreeReport.ofTokens (tokenize source)).tree.preOrder,
          node.mentions name = true := by
  rw [Bool.or_eq_true, Option.isNone_iff_eq_none, Bool.not_eq_true']
  cases last : (TreeReport.ofTokens (tokenize source)).tree.lastParameter name with
  | none => simp
  | some parameter =>
    obtain ⟨found, -⟩ := Option.filter_eq_some_iff.mp last
    obtain ⟨member, defines⟩ := Node.lastDefinition_some found
    have noPrint : name ≠ "print" := by
      rintro rfl
      exact absurd (isReserved_of_definesName valid member defines) (by decide)
    rw [isEmpty_mentions_eq_false_iff valid noPrint]

end Sources

/-- A name that is a parameter and nothing else is a parameter by its last definition. -/
theorem Node.exists_lastParameter {tree function : Node} {name : String}
    (member : function ∈ tree.preOrder) (declared : name ∈ function.parameterNames)
    (only : ∀ node ∈ tree.preOrder, node.definesName name = true → node.kind = .parameter) :
    ∃ parameter, tree.lastParameter name = some parameter := by
  have listed : name ∈ (function.childrenOfKind .parameter).map value := by
    rw [parameterNames] at declared
    split at declared
    · exact declared
    · cases declared
  obtain ⟨child, isChild, rfl⟩ := List.mem_map.mp listed
  obtain ⟨below, role⟩ := List.mem_filter.mp isChild
  have defines : child.definesName child.value = true := by
    simp_all [definesName, NodeKind.defines]
  have within := mem_preOrder_of_child below tree member
  obtain ⟨parameter, found⟩ : ∃ parameter, tree.lastDefinition child.value = some parameter :=
    Option.isSome_iff_exists.mp
      (List.find?_isSome.mpr ⟨child, List.mem_reverse.mpr within, defines⟩)
  refine ⟨parameter, Option.filter_eq_some_iff.mpr ⟨found, beq_iff_eq.mpr ?_⟩⟩
  obtain ⟨member, defines⟩ := lastDefinition_some found
  exact only parameter member defines

/-- The check on the use of a parameter catches a parameter that is never read, if its name is
defined in no other way. It passes whatever is read, and also a name whose last definition is no
parameter: by then another definition has taken the place of the parameter. -/
theorem parameterUsage_reads (source : String) (watch : WatchList)
    (valid : (TreeReport.ofTokens (tokenize source)).valid = true) :
    ∃ passed, Check.run (Subject.ofTokens (tokenize source) watch) .parameterUsage =
        ⟨[⟨s!"parameter '{watch.trackedParameter}' is used correctly", passed,
          ((TreeReport.ofTokens (tokenize source)).tree.lastParameter
            watch.trackedParameter).map Node.line⟩], [], []⟩ ∧
      ((TreeReport.ofTokens (tokenize source)).tree.lastParameter watch.trackedParameter = none →
        passed = true) ∧
      ((∃ node ∈ (TreeReport.ofTokens (tokenize source)).tree.preOrder,
        node.reads watch.trackedParameter = true) → passed = true) ∧
      ((∃ function ∈ (TreeReport.ofTokens (tokenize source)).tree.preOrder,
          watch.trackedParameter ∈ function.parameterNames) →
        (∀ node ∈ (TreeReport.ofTokens (tokenize source)).tree.preOrder,
          node.definesName watch.trackedParameter = true → node.kind = .parameter) →
        passed = true →
        ∃ node ∈ (TreeReport.ofTokens (tokenize source)).tree.preOrder,
          node.reads watch.trackedParameter = true) := by
  refine ⟨_, Subject.parameterUsage_eq _ watch, ?_⟩
  rw [parameterUsage_passed_iff valid]
  refine ⟨.inl, ?_, ?_⟩
  · rintro ⟨node, member, reads⟩
    exact .inr ⟨node, member, Node.mentions_of_reads reads⟩
  · rintro ⟨function, member, declared⟩ only passes
    obtain ⟨parameter, last⟩ := Node.exists_lastParameter member declared only
    obtain ⟨node, within, mentions⟩ := passes.resolve_left (by simp [last])
    rcases Bool.or_eq_true_iff.mp mentions with reads | defines
    · exact ⟨node, within, reads⟩
    · obtain ⟨defines, other⟩ := Bool.and_eq_true_iff.mp defines
      simp [only node within defines] at other

/-- Two functions with a parameter of the same name, which only one of them reads. -/
def twiceDeclaringSource : String :=
  "def f(n):\n  return 1\ndef g(n):\n  return n"

theorem parameterUsage_reads_source :
    (TreeReport.ofTokens (tokenize twiceDeclaringSource)).valid = true ∧
    Check.run (Subject.ofTokens (tokenize twiceDeclaringSource) {}) .parameterUsage =
      ⟨[⟨"parameter 'n' is used correctly", true, some 3⟩], [], []⟩ ∧
    (∃ function ∈ (TreeReport.ofTokens (tokenize twiceDeclaringSource)).tree.preOrder,
      "n" ∈ function.parameterNames) ∧
    (∀ node ∈ (TreeReport.ofTokens (tokenize twiceDeclaringSource)).tree.preOrder,
      node.definesName "n" = true → node.kind = .parameter) ∧
    ∃ node ∈ (TreeReport.ofTokens (tokenize twiceDeclaringSource)).tree.preOrder,
      node.reads "n" = true := by
  have valid : (TreeReport.ofTokens (tokenize twiceDeclaringSource)).valid = true := by
    decide +kernel
  have found : Check.run (Subject.ofTokens (tokenize twiceDeclaringSource) {}) .parameterUsage =
      ⟨[⟨"parameter 'n' is used correctly", true, some 3⟩], [], []⟩ := by decide +kernel
  have declared : ∃ function ∈ (TreeReport.ofTokens (tokenize twiceDeclaringSource)).tree.preOrder,
      "n" ∈ function.parameterNames := by decide +kernel
  have only : ∀ node ∈ (TreeReport.ofTokens (tokenize twiceDeclaringSource)).tree.preOrder,
      node.definesName "n" = true → node.kind = .parameter := by decide +kernel
  obtain ⟨passed, findings, -, -, read⟩ := parameterUsage_reads twiceDeclaringSource {} valid
  have passes : passed = true := by
    rw [found] at findings
    simp only [Findings.mk.injEq, List.cons.injEq, Verdict.mk.injEq] at findings
    exact findings.1.1.2.1.symm
  exact ⟨valid, found, declared, only, read declared only passes⟩

/-- The check passes although a parameter of a function is nowhere read. -/
def PassesUnread (source name : String) : Prop :=
  (TreeReport.ofTokens (tokenize source)).valid = true ∧
    (∃ function ∈ (TreeReport.ofTokens (tokenize source)).tree.preOrder,
      function.kind = .functionDef ∧ name ∈ function.parameterNames) ∧
    (Check.run (Subject.ofTokens (tokenize source) { trackedParameter := name })
      .parameterUsage).verdicts.map Verdict.passed = [true] ∧
    ∀ node ∈ (TreeReport.ofTokens (tokenize source)).tree.preOrder, node.reads name = false

/-- An assignment takes the place of the parameter that it assigns to. One that comes before the
parameter leaves it in its place, but the name stands there outside of a parameter list. -/
theorem parameterUsage_unread :
    PassesUnread "def f(n):\n  n = 1" "n" ∧ PassesUnread "n = 1\ndef f(n):\n  return 1" "n" := by
  refine ⟨⟨?_, ?_, ?_, ?_⟩, ?_, ?_, ?_, ?_⟩ <;> decide +kernel

end SnippetCheck

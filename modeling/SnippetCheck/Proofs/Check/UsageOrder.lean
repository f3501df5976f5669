import Mathlib.Data.Nat.Find
import SnippetCheck.Proofs.Check.Additions
import SnippetCheck.Proofs.Check.DefinitionOrder
import SnippetCheck.Proofs.Symbol.Declared

namespace SnippetCheck

namespace Neighbours

/-- The identifier at an index assigns to a name. -/
def Assigns (tokens : List Token) (name : String) (index : Nat) : Prop :=
  isAssigned tokens index = true ∧
    ∃ token, tokens[index]? = some token ∧ token.is .identifier name = true

/-- The identifier at an index is the name of a definition or stands in a parameter list. -/
def Declares (tokens : List Token) (index : Nat) : Prop :=
  followsDef tokens index = true ∨ index ∈ parameterPositions tokens

section Scans

variable {tokens : List Token} {index : Nat} {token : Token} {name : String}

/-- A search among the tokens with their indexes gives the first that will do. -/
theorem find?_indexed_eq_some_iff {select : Nat × Token → Bool} :
    (indexed tokens).find? select = some (index, token) ↔
      select (index, token) = true ∧ tokens[index]? = some token ∧
        ∀ earlier other, earlier < index → tokens[earlier]? = some other →
          select (earlier, other) = false := by
  rw [List.find?_eq_some_iff_getElem]
  simp only [indexed, List.length_map, List.length_zipIdx, List.getElem_map, List.getElem_zipIdx,
    Nat.zero_add, Prod.mk.injEq, Bool.not_eq_true']
  constructor
  · rintro ⟨selected, place, bound, ⟨rfl, rfl⟩, first⟩
    refine ⟨selected, List.getElem?_eq_getElem bound, fun earlier other order there => ?_⟩
    obtain ⟨-, rfl⟩ := List.getElem?_eq_some_iff.mp there
    exact first earlier order
  · rintro ⟨selected, found, first⟩
    obtain ⟨bound, rfl⟩ := List.getElem?_eq_some_iff.mp found
    exact ⟨selected, index, bound, ⟨rfl, rfl⟩, fun earlier order =>
      first earlier _ order (List.getElem?_eq_getElem (Nat.lt_trans order bound))⟩

/-- The definitions that the scans find, one by one. -/
theorem mem_declared_iff {kind : SymbolKind} {line : UInt32} :
    (name, kind, line) ∈ declared tokens ↔
      ∃ index token, tokens[index]? = some token ∧ token.is .identifier name = true ∧
        kind ∈ kindsAt tokens index ∧ token.line = line := by
  simp only [declared, List.mem_flatMap, Prod.exists, mem_indexed_iff, Token.is_iff]
  grind

theorem assigned_mem_kindsAt_iff :
    .assigned ∈ kindsAt tokens index ↔ isAssigned tokens index = true := by
  simp [kindsAt]

/-- A name is assigned to if the scans find an assignment of it. -/
theorem exists_assigns_iff :
    (∃ index, Assigns tokens name index) ↔ ∃ line, (name, .assigned, line) ∈ declared tokens := by
  simp only [mem_declared_iff, assigned_mem_kindsAt_iff]
  constructor
  · rintro ⟨index, assigned, token, found, named⟩
    exact ⟨token.line, index, token, found, named, assigned, rfl⟩
  · rintro ⟨_, index, token, found, named, assigned, -⟩
    exact ⟨index, assigned, token, found, named⟩

theorem assigns_iff (found : tokens[index]? = some token) :
    Assigns tokens name index ↔
      (token.kind = .identifier ∧ isAssigned tokens index = true) ∧ token.text = name := by
  simp only [Assigns, found, Option.some.injEq, exists_eq_left', Token.is_iff]
  tauto

/-- In a program without faults, a declaration is no assignment. -/
theorem Declares.not_isAssigned (valid : (TreeReport.ofTokens tokens).valid = true)
    (declares : Declares tokens index) (found : tokens[index]? = some token)
    (kind : token.kind = .identifier) : isAssigned tokens index = false := by
  have once := length_kindsAt_le valid found kind
  cases assigned : isAssigned tokens index with
  | false => rfl
  | true =>
    rcases declares with named | listed
    · simp [kindsAt, named, assigned] at once
    · simp [kindsAt, listed, assigned] at once

end Scans
end Neighbours

open Neighbours

namespace Subject

variable {subject : Subject} {index : Nat} {token : Token}

/-- The warning that one token causes. -/
def warningAt (subject : Subject) (entry : Nat × Token) : Option Warning :=
  subject.usageWarning subject.assignments entry.1 entry.2

/-- Among the assignments of a name, the search gives the first. -/
theorem find?_assignments_eq_some_iff {name : String} :
    subject.assignments.find? (·.2.text == name) = some (index, token) ↔
      subject.tokens[index]? = some token ∧ Assigns subject.tokens name index ∧
        ∀ earlier < index, ¬ Assigns subject.tokens name earlier := by
  rw [assignments, List.find?_filter, find?_indexed_eq_some_iff]
  simp only [Bool.and_eq_true, beq_iff_eq, decide_eq_true_eq, decide_eq_false_iff_not]
  constructor
  · rintro ⟨selected, found, first⟩
    refine ⟨found, (assigns_iff found).mpr selected, fun earlier order assigns => ?_⟩
    have ⟨_, other, there, _⟩ := assigns
    exact first earlier other order there ((assigns_iff there).mp assigns)
  · rintro ⟨found, assigns, first⟩
    exact ⟨(assigns_iff found).mp assigns, found, fun earlier other order there selected =>
      first earlier order ((assigns_iff there).mpr selected)⟩

/-- A token causes a warning if it reads a name that counts and the first assignment of the name
stands behind it. -/
theorem warningAt_eq_some_iff {warning : Warning} :
    subject.warningAt (index, token) = some warning ↔
      token.kind = .identifier ∧ isAssigned subject.tokens index = false ∧
        subject.isExempt token.text = false ∧
        ∃ first target, subject.tokens[first]? = some target ∧
          Assigns subject.tokens token.text first ∧
          (∀ earlier < first, ¬ Assigns subject.tokens token.text earlier) ∧
          index < first ∧
          .usedBeforeAssignment token.text token.line target.line = warning := by
  rw [warningAt, usageWarning]
  constructor
  · intro warned
    split at warned
    · next reads =>
      simp only [Bool.and_eq_true, beq_iff_eq, Bool.not_eq_true'] at reads
      split at warned
      · next first target search =>
        split at warned
        · next order =>
          obtain ⟨found, assigns, none⟩ := find?_assignments_eq_some_iff.mp search
          exact ⟨reads.1.1, reads.1.2, reads.2, first, target, found, assigns, none, order,
            Option.some.inj warned⟩
        · cases warned
      · cases warned
    · cases warned
  · rintro ⟨kind, unassigned, counted, first, target, found, assigns, none, order, rfl⟩
    have search := find?_assignments_eq_some_iff.mpr ⟨found, assigns, none⟩
    simp [kind, unassigned, counted, search, order]

/-- A token that is no target causes a warning if its name is assigned to, though not before. -/
theorem isSome_warningAt_iff (kind : token.kind = .identifier)
    (unassigned : isAssigned subject.tokens index = false) :
    (subject.warningAt (index, token)).isSome = true ↔
      subject.isExempt token.text = false ∧
        (∃ place, Assigns subject.tokens token.text place) ∧
        ∀ earlier < index, ¬ Assigns subject.tokens token.text earlier := by
  rw [Option.isSome_iff_exists]
  constructor
  · rintro ⟨warning, warned⟩
    obtain ⟨-, -, counted, first, target, -, assigns, none, order, -⟩ :=
      warningAt_eq_some_iff.mp warned
    exact ⟨counted, ⟨first, assigns⟩, fun earlier before =>
      none earlier (Nat.lt_trans before order)⟩
  · rintro ⟨counted, assigned, none⟩
    classical
    obtain ⟨first, assigns, least⟩ := Nat.findX assigned
    have order : index < first := by
      by_contra late
      rcases Nat.lt_or_eq_of_le (Nat.le_of_not_lt late) with before | rfl
      · exact none first before assigns
      · simp [assigns.1] at unassigned
    obtain ⟨target, found, -⟩ := assigns.2
    exact ⟨_, warningAt_eq_some_iff.mpr
      ⟨kind, unassigned, counted, first, target, found, assigns, least, order, rfl⟩⟩

/-- A name that has a definition counts if it is no builtin and a variable by its last one. -/
theorem isExempt_eq_false_iff {name : String} (defined : (subject.table.lookup name).isSome = true) :
    subject.isExempt name = false ↔
      isBuiltin name = false ∧
        ∃ symbol, subject.table.lookup name = some symbol ∧ symbol.kind = .assigned := by
  obtain ⟨symbol, current⟩ := Option.isSome_iff_exists.mp defined
  rw [isExempt, current]
  cases kind : symbol.kind <;> simp [kind]

end Subject

/-- The last definition of a name is an assignment. -/
def Node.EndsAssigned (root : Node) (name : String) : Prop :=
  ∃ node, root.lastDefinition name = some node ∧ node.kind = .assignment

theorem Node.IsProgram.lookup_assigned_iff {tree : Node} (shape : tree.IsProgram) (name : String) :
    (∃ symbol, (collectSymbols tree).table.lookup name = some symbol ∧ symbol.kind = .assigned) ↔
      tree.EndsAssigned name := by
  have last := shape.lookup_entry name
  constructor
  · rintro ⟨symbol, current, assigned⟩
    rw [current, Option.map_some] at last
    obtain ⟨node, found, entry⟩ := Option.bind_eq_some_iff.mp last.symm
    refine ⟨node, found, ?_⟩
    cases role : node.kind <;> simp_all [Node.entry?, NodeKind.defines, Symbol.entry]
  · rintro ⟨node, found, role⟩
    rw [found, Option.bind_some, Node.entry?, role] at last
    obtain ⟨symbol, current, entry⟩ := Option.map_eq_some_iff.mp last
    exact ⟨symbol, current, congrArg (·.2.1) entry⟩

section Declarations

variable (tokens : List Token) (watch : WatchList)
  (valid : (TreeReport.ofTokens tokens).valid = true)

include valid

/-- In a program without faults, every name that is assigned to is in the table. -/
theorem isSome_lookup_of_assigns {name : String} {index : Nat}
    (assigns : Assigns tokens name index) :
    ((Subject.ofTokens tokens watch).table.lookup name).isSome = true := by
  obtain ⟨line, declared⟩ := exists_assigns_iff.mp ⟨index, assigns⟩
  rw [← definitions_eq_declared valid] at declared
  obtain ⟨symbol, logged, entry⟩ := List.mem_map.mp declared
  have named : symbol.name = name := congrArg Prod.fst entry
  rw [Subject.ofTokens, ← SymbolTable.contains_eq_isSome, (latest_collectSymbols _).contains,
    List.any_eq_true]
  exact ⟨symbol, logged, beq_iff_eq.mpr named⟩

/-- In a program without faults, a name whose last definition is an assignment is assigned to. -/
theorem exists_assigns_of_endsAssigned {name : String}
    (ends : (TreeReport.ofTokens tokens).tree.EndsAssigned name) :
    ∃ index, Assigns tokens name index := by
  obtain ⟨symbol, current, assigned⟩ :=
    ((Grammar.isProgram_ofTokens tokens).lookup_assigned_iff name).mpr ends
  have latest := latest_collectSymbols (TreeReport.ofTokens tokens).tree name
  rw [current] at latest
  have logged := List.mem_of_find?_eq_some latest.symm
  have named : symbol.name = name := by simpa using List.find?_some latest.symm
  refine exists_assigns_iff.mpr ⟨symbol.line, ?_⟩
  rw [← definitions_eq_declared valid]
  exact List.mem_map.mpr ⟨symbol, List.mem_reverse.mp logged, by rw [Symbol.entry, named, assigned]⟩

end Declarations

/-- The warnings on the order of use are those that the tokens cause, each by itself. In a program
without faults, a declaration causes one as if it were a read: if the last definition of its name
anywhere is an assignment, unless one stands before it. That the name is declared there does not
count. -/
theorem usageOrder_declaration (tokens : List Token) (watch : WatchList)
    (valid : (TreeReport.ofTokens tokens).valid = true) :
    (Check.run (Subject.ofTokens tokens watch) .usageOrder).warnings =
        (indexed tokens).filterMap (Subject.ofTokens tokens watch).warningAt ∧
      ∀ index token, tokens[index]? = some token → token.kind = .identifier →
        Declares tokens index →
        (((Subject.ofTokens tokens watch).warningAt (index, token)).isSome = true ↔
          isBuiltin token.text = false ∧
            (TreeReport.ofTokens tokens).tree.EndsAssigned token.text ∧
            ∀ earlier < index, ¬ Assigns tokens token.text earlier) := by
  refine ⟨congrArg Findings.warnings (Check.run_usageOrder _),
    fun index token found kind declares => ?_⟩
  have unassigned := declares.not_isAssigned valid found kind
  have counts (assigned : ∃ place, Assigns tokens token.text place) :
      (Subject.ofTokens tokens watch).isExempt token.text = false ↔
        isBuiltin token.text = false ∧
          (TreeReport.ofTokens tokens).tree.EndsAssigned token.text := by
    obtain ⟨place, assigns⟩ := assigned
    rw [Subject.isExempt_eq_false_iff (isSome_lookup_of_assigns tokens watch valid assigns),
      ← (Grammar.isProgram_ofTokens tokens).lookup_assigned_iff]
    rfl
  rw [Subject.isSome_warningAt_iff kind unassigned]
  constructor
  · rintro ⟨counted, assigned, none⟩
    obtain ⟨noBuiltin, ends⟩ := (counts assigned).mp counted
    exact ⟨noBuiltin, ends, none⟩
  · rintro ⟨noBuiltin, ends, none⟩
    have assigned := exists_assigns_of_endsAssigned tokens valid ends
    exact ⟨(counts assigned).mpr ⟨noBuiltin, ends⟩, assigned, none⟩

/-- A function and its parameter, whose names are assigned to in its body. -/
def reassigningSource : String :=
  "def f(n):\n  n = 1\n  f = n"

theorem usageOrder_declaration_source :
    (TreeReport.ofTokens (tokenize reassigningSource)).valid = true ∧
    (Check.run (Subject.ofTokens (tokenize reassigningSource) {}) .usageOrder).warnings =
        (indexed (tokenize reassigningSource)).filterMap
          (Subject.ofTokens (tokenize reassigningSource) {}).warningAt ∧
    (tokenize reassigningSource)[3]? = some ⟨.identifier, "n", 1, 7⟩ ∧
    Declares (tokenize reassigningSource) 3 ∧
    (((Subject.ofTokens (tokenize reassigningSource) {}).warningAt
          (3, ⟨.identifier, "n", 1, 7⟩)).isSome = true ↔
      isBuiltin "n" = false ∧
        (TreeReport.ofTokens (tokenize reassigningSource)).tree.EndsAssigned "n" ∧
        ∀ earlier < 3, ¬ Assigns (tokenize reassigningSource) "n" earlier) := by
  have valid : (TreeReport.ofTokens (tokenize reassigningSource)).valid = true := by decide +kernel
  have found : (tokenize reassigningSource)[3]? = some ⟨.identifier, "n", 1, 7⟩ := by
    decide +kernel
  have declares : Declares (tokenize reassigningSource) 3 := .inr (by decide +kernel)
  obtain ⟨warnings, declaration⟩ := usageOrder_declaration _ {} valid
  exact ⟨valid, warnings, found, declares, declaration 3 _ found rfl declares⟩

/-- The name of the definition and the parameter are taken for reads, and cause the warnings. -/
theorem usageOrder_reassigned :
    (TreeReport.ofTokens (tokenize reassigningSource)).valid = true ∧
    (tokenize reassigningSource)[1]? = some ⟨.identifier, "f", 1, 5⟩ ∧
    followsDef (tokenize reassigningSource) 1 = true ∧
    (tokenize reassigningSource)[3]? = some ⟨.identifier, "n", 1, 7⟩ ∧
    3 ∈ parameterPositions (tokenize reassigningSource) ∧
    (Subject.ofTokens (tokenize reassigningSource) {}).warningAt (1, ⟨.identifier, "f", 1, 5⟩) =
      some (.usedBeforeAssignment "f" 1 3) ∧
    (Subject.ofTokens (tokenize reassigningSource) {}).warningAt (3, ⟨.identifier, "n", 1, 7⟩) =
      some (.usedBeforeAssignment "n" 1 2) ∧
    (Check.run (Subject.ofTokens (tokenize reassigningSource) {}) .usageOrder).warnings =
      [.usedBeforeAssignment "f" 1 3, .usedBeforeAssignment "n" 1 2] := by
  refine ⟨?_, ?_, ?_, ?_, ?_, ?_, ?_, ?_⟩ <;> decide +kernel

end SnippetCheck

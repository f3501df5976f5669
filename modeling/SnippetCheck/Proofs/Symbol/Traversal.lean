import SnippetCheck.Proofs.Symbol.Latest

namespace SnippetCheck

namespace Visit

/-- The warning about a name that is read after some definitions. None of them, in whatever scope,
is of that name, and it is no builtin. -/
def warning? (earlier : List Symbol) : Visit → Option Warning
  | definition _ => none
  | read name line =>
    if earlier.any (·.name == name) || isBuiltin name then none
    else some (.undefinedName name line)

/-- The warnings about the names that are read on the way, each judged by the definitions met
before it. -/
def warnings (visits : List Visit) : List Warning :=
  visits.zipIdx.filterMap fun entry =>
    entry.1.warning? ((visits.take entry.2).filterMap symbol?)

theorem warnings_concat (visits : List Visit) (visit : Visit) :
    warnings (visits ++ [visit]) =
      warnings visits ++ (visit.warning? (visits.filterMap symbol?)).toList := by
  have earlier : ∀ entry ∈ visits.zipIdx,
      entry.1.warning? (((visits ++ [visit]).take entry.2).filterMap symbol?) =
        entry.1.warning? ((visits.take entry.2).filterMap symbol?) := by
    intro entry member
    rw [List.take_append_of_le_length (Nat.le_of_lt (List.snd_lt_of_mem_zipIdx member))]
  rw [warnings, List.zipIdx_append, List.filterMap_append, List.filterMap_congr earlier, warnings]
  congr 1
  cases found : visit.warning? (visits.filterMap symbol?) <;> simp [found]

end Visit

namespace Collected

/-- What has been recorded after some visits. -/
structure Records (collected : Collected) (visits : List Visit) : Prop where
  table : collected.table = .ofDefinitions (visits.filterMap Visit.symbol?)
  warnings : collected.warnings.toList = Visit.warnings visits

theorem records_empty : Records .empty [] :=
  ⟨rfl, rfl⟩

theorem Records.contains {collected : Collected} {visits : List Visit}
    (records : collected.Records visits) (name : String) :
    collected.table.contains name = (visits.filterMap Visit.symbol?).any (·.name == name) := by
  rw [records.table, (SymbolTable.latest_ofDefinitions _).contains,
    SymbolTable.ofDefinitions_definitions]

theorem Records.note {collected : Collected} {visits : List Visit}
    (records : collected.Records visits) (visit : Visit) :
    (collected.note visit).Records (visits ++ [visit]) := by
  cases visit with
  | definition symbol =>
    constructor
    · rw [List.filterMap_append]
      exact (congrArg (·.define symbol) records.table).trans
        (SymbolTable.ofDefinitions_concat _ symbol).symm
    · rw [Visit.warnings_concat, ← records.warnings]
      exact (List.append_nil _).symm
  | read name line =>
    constructor
    · rw [Collected.note, read_table, records.table, List.filterMap_append]
      exact congrArg _ (List.append_nil _).symm
    · rw [Visit.warnings_concat, ← records.warnings, Visit.warning?, Collected.note,
        Collected.read, records.contains]
      split <;> simp

theorem Records.foldl {collected : Collected} {before : List Visit}
    (records : collected.Records before) (visits : List Visit) :
    (visits.foldl Collected.note collected).Records (before ++ visits) := by
  induction visits generalizing collected before with
  | nil => rwa [List.append_nil]
  | cons visit rest ih =>
    rw [List.append_cons]
    exact ih (records.note visit)

theorem records_collectSymbols (root : Node) :
    (collectSymbols root).Records (root.visits globalScope) := by
  have records := records_empty.foldl (root.visits globalScope)
  rwa [← collectSymbols_eq_foldl, List.nil_append] at records

end Collected

/-- Symbols are collected as the scopes of a tree have it: the log is that of the definitions in
their scopes, and the warnings are about the names that are read before a definition of them is
met. Wherever the collector stands, the way through a tree leaves it in the scopes it came from, so
what is defined in a function has the scope of that function, and nothing behind it does. -/
theorem collectSymbols_traversal (root : Node) :
    (collectSymbols root).table.definitions = root.definitionsIn globalScope ∧
    (root.visits globalScope).filterMap Visit.symbol? = root.definitionsIn globalScope ∧
    (collectSymbols root).warnings.toList = Visit.warnings (root.visits globalScope) ∧
    ∀ (collector : Collector) (tree : Node),
      (Collector.node tree collector).scopes = collector.scopes ∧
      (Collector.node tree collector).collected.table.definitions =
        collector.collected.table.definitions ++ tree.definitionsIn collector.currentScope := by
  have defined := root.visits_definitions globalScope
  have records := Collected.records_empty.foldl (root.visits globalScope)
  rw [← collectSymbols_eq_foldl, List.nil_append] at records
  refine ⟨?_, defined, records.warnings, fun collector tree => ?_⟩
  · rw [records.table, defined, SymbolTable.ofDefinitions_definitions]
  · rw [Collector.node_eq_along]
    refine ⟨rfl, ?_⟩
    rw [Collector.along, Collected.foldl_note_table, tree.visits_definitions,
      SymbolTable.foldl_define_definitions]

end SnippetCheck

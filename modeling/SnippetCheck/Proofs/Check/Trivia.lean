import Mathlib.Data.List.Find
import SnippetCheck.Proofs.Check.Additions
import SnippetCheck.Proofs.Symbol.Declared
import SnippetCheck.Proofs.Token.Rank

namespace SnippetCheck

namespace Neighbours

theorem contains_parameterIndexes {tokens : List Token} {index : Nat} {token : Token}
    (found : tokens[index]? = some token) (name : token.kind = .identifier) :
    (parameterIndexes tokens).contains index = inSignature (before tokens index) := by
  have bound := (List.getElem?_eq_some_iff.mp found).1
  rw [← contains_parameterPositions_iff found name, Bool.eq_iff_iff]
  simp [parameterPositions, bound]

/-- What is seen behind the next token is told by the two that come next. -/
theorem map_nextIndex {β : Type} (tokens : List Token) (index : Nat) (look : Option Token → β) :
    (nextIndex tokens index).map (fun next => look (Neighbours.next tokens next)) =
      (after tokens index).head?.map fun _ => look (after tokens index).tail.head? := by
  rcases nextIndex_cases tokens index with ⟨none, rest⟩ | ⟨next, token, found, there, rest⟩
  · simp [none, rest]
  · simp [found, rest, next_eq_head?]

section Ranked

variable {tokens : List Token} {entry : Nat × Token} (member : entry ∈ indexed tokens)
  (significant : entry.2.isSignificant = true)

include member significant

theorem followsDef_ranked :
    followsDef (significantTokens tokens) (rank tokens entry.1) = followsDef tokens entry.1 := by
  rw [followsDef_eq tokens entry, ← placeAt_ranked member significant]
  exact followsDef_eq _ (ranked tokens entry)

theorem opensCall_ranked :
    opensCall (significantTokens tokens) (rank tokens entry.1) = opensCall tokens entry.1 := by
  rw [opensCall_eq tokens entry, ← placeAt_ranked member significant]
  exact opensCall_eq _ (ranked tokens entry)

theorem isAssigned_ranked :
    isAssigned (significantTokens tokens) (rank tokens entry.1) = isAssigned tokens entry.1 := by
  rw [isAssigned_eq tokens entry, ← placeAt_ranked member significant]
  exact isAssigned_eq _ (ranked tokens entry)

theorem contains_parameterIndexes_ranked (name : entry.2.kind = .identifier) :
    (parameterIndexes (significantTokens tokens)).contains (rank tokens entry.1) =
      (parameterIndexes tokens).contains entry.1 := by
  rw [contains_parameterIndexes (mem_indexed_iff.mp (ranked_mem_indexed member significant)) name,
    contains_parameterIndexes (mem_indexed_iff.mp member) name]
  exact congrArg (inSignature ·.before) (placeAt_ranked member significant)

/-- Whatever is asked of the two tokens that come next, their indexes do not matter. -/
theorem map_nextIndex_ranked {β : Type} (look : Option Token → β) :
    (nextIndex (significantTokens tokens) (rank tokens entry.1)).map
        (fun next => look (Neighbours.next (significantTokens tokens) next)) =
      (nextIndex tokens entry.1).map fun next => look (Neighbours.next tokens next) := by
  rw [map_nextIndex, map_nextIndex]
  exact congrArg (fun place : Place => place.after.head?.map fun _ => look place.after.tail.head?)
    (placeAt_ranked member significant)

end Ranked

/-- A name occurs in the same places, by the number of significant tokens before them. -/
theorem occurrences_withoutTrivia (tokens : List Token) (name : String) :
    occurrences (significantTokens tokens) name =
      (occurrences tokens name).map (ranked tokens) := by
  refine filter_indexed (fun entry named => ?_) fun entry _ _ => rfl
  exact Token.isSignificant_of_kind (Token.is_iff.mp named).1 (by decide)

theorem mem_occurrences {tokens : List Token} {name : String} {entry : Nat × Token}
    (member : entry ∈ occurrences tokens name) :
    entry ∈ indexed tokens ∧ entry.2.kind = .identifier ∧ entry.2.isSignificant = true := by
  obtain ⟨listed, named⟩ := List.mem_filter.mp member
  have kind := (Token.is_iff.mp named).1
  exact ⟨listed, kind, Token.isSignificant_of_kind kind (by decide)⟩

end Neighbours

open Neighbours

namespace Subject

/-- The same subject, with newlines and comments taken out of its tokens. -/
def withoutTrivia (subject : Subject) : Subject :=
  { subject with tokens := significantTokens subject.tokens }

variable (subject : Subject)

@[simp]
theorem tokens_withoutTrivia :
    subject.withoutTrivia.tokens = significantTokens subject.tokens :=
  rfl

@[simp]
theorem table_withoutTrivia : subject.withoutTrivia.table = subject.table :=
  rfl

@[simp]
theorem watch_withoutTrivia : subject.withoutTrivia.watch = subject.watch :=
  rfl

/-- The lines on which the function is named stay. -/
theorem targetUses_withoutTrivia : subject.withoutTrivia.targetUses = subject.targetUses := by
  simp only [targetUses, tokens_withoutTrivia, watch_withoutTrivia]
  rw [occurrences_withoutTrivia, List.filterMap_map]
  refine List.filterMap_congr fun entry member => ?_
  obtain ⟨listed, -, significant⟩ := mem_occurrences member
  simp only [Function.comp_apply, ranked, followsDef_ranked listed significant]

theorem definedBeforeUse_withoutTrivia :
    subject.withoutTrivia.definedBeforeUse = subject.definedBeforeUse := by
  funext output
  simp only [definedBeforeUse, targetError, targetUses_withoutTrivia, table_withoutTrivia,
    watch_withoutTrivia]

/-- The same tokens are assigned to. -/
theorem assignments_withoutTrivia :
    subject.withoutTrivia.assignments = subject.assignments.map (ranked subject.tokens) := by
  refine filter_indexed (fun entry taken => ?_) fun entry member significant => ?_
  · simp only [Bool.and_eq_true, beq_iff_eq] at taken
    exact Token.isSignificant_of_kind taken.1 (by decide)
  · simp only [ranked, tokens_withoutTrivia, isAssigned_ranked member significant]

/-- Of two tokens the same comes first with and without trivia, so the first assignment of a name
is still on the same side of a token. -/
theorem usageWarning_withoutTrivia {entry : Nat × Token} (member : entry ∈ indexed subject.tokens)
    (significant : entry.2.isSignificant = true) :
    subject.withoutTrivia.usageWarning subject.withoutTrivia.assignments
        (rank subject.tokens entry.1) entry.2 =
      subject.usageWarning subject.assignments entry.1 entry.2 := by
  have assigned := isAssigned_ranked member significant
  have exempt : subject.withoutTrivia.isExempt entry.2.text = subject.isExempt entry.2.text := rfl
  have first : subject.withoutTrivia.assignments.find? (·.2.text == entry.2.text) =
      (subject.assignments.find? (·.2.text == entry.2.text)).map (ranked subject.tokens) := by
    rw [assignments_withoutTrivia, List.find?_map]
    rfl
  simp only [usageWarning, exempt, first, tokens_withoutTrivia, assigned]
  have order (target : Nat) :=
    @rank_lt_rank_iff _ _ target _ (mem_indexed_iff.mp member) significant
  cases subject.assignments.find? (·.2.text == entry.2.text) with
  | none => rfl
  | some target => simp only [Option.map_some, ranked, order]

/-- The loop over all tokens adds no warning for trivia, and the others are the same. -/
theorem usageOrder_withoutTrivia : subject.withoutTrivia.usageOrder = subject.usageOrder := by
  have warnings : (indexed (significantTokens subject.tokens)).filterMap (fun entry =>
        subject.withoutTrivia.usageWarning subject.withoutTrivia.assignments entry.1 entry.2) =
      (indexed subject.tokens).filterMap fun entry =>
        subject.usageWarning subject.assignments entry.1 entry.2 := by
    refine filterMap_indexed (fun entry warned => ?_) fun entry member significant =>
      subject.usageWarning_withoutTrivia member significant
    rw [usageWarning] at warned
    split at warned
    · next read =>
      simp only [Bool.and_eq_true, beq_iff_eq] at read
      exact Token.isSignificant_of_kind read.1.1 (by decide)
    · cases warned
  funext output
  rw [subject.withoutTrivia.adds_usageOrder output, subject.adds_usageOrder output,
    tokens_withoutTrivia, warnings]

theorem parameterUsage_withoutTrivia :
    subject.withoutTrivia.parameterUsage = subject.parameterUsage := by
  have used : (occurrences (significantTokens subject.tokens) subject.watch.trackedParameter).any
        (fun entry => !(parameterIndexes (significantTokens subject.tokens)).contains entry.1) =
      (occurrences subject.tokens subject.watch.trackedParameter).any
        fun entry => !(parameterIndexes subject.tokens).contains entry.1 := by
    rw [occurrences_withoutTrivia, List.any_map, Bool.eq_iff_iff, List.any_eq_true,
      List.any_eq_true]
    refine exists_congr fun entry => and_congr_right fun member => ?_
    obtain ⟨listed, name, significant⟩ := mem_occurrences member
    simp only [Function.comp_apply, ranked,
      contains_parameterIndexes_ranked listed significant name]
  funext output
  simp only [parameterUsage, tokens_withoutTrivia, table_withoutTrivia, watch_withoutTrivia, used]

/-- The same calls are found: a callee and its parenthesis are neighbours but for trivia. -/
theorem builtinCalls_withoutTrivia :
    subject.withoutTrivia.builtinCalls = subject.builtinCalls := by
  refine filterMap_indexed (fun entry called => ?_) fun entry member significant => ?_
  · split at called
    · next callable =>
      simp only [Bool.and_eq_true, Bool.or_eq_true, beq_iff_eq] at callable
      rcases callable.1.1 with name | keyword
      · exact Token.isSignificant_of_kind name (by decide)
      · exact Token.isSignificant_of_kind keyword (by decide)
    · cases called
  · have opened := map_nextIndex_ranked member significant fun next =>
      (entry.2.line, next.any (!·.isSymbol ")"))
    simp only [ranked, tokens_withoutTrivia, watch_withoutTrivia,
      opensCall_ranked member significant, opened]

theorem callArguments_withoutTrivia :
    subject.withoutTrivia.callArguments = subject.callArguments := by
  funext output
  simp only [callArguments, builtinCalls_withoutTrivia, watch_withoutTrivia]

theorem recursiveCall_withoutTrivia :
    subject.withoutTrivia.recursiveCall = subject.recursiveCall := by
  have first : (occurrences (significantTokens subject.tokens)
        subject.watch.targetFunction).find? (fun entry =>
          !followsDef (significantTokens subject.tokens) entry.1 &&
            opensCall (significantTokens subject.tokens) entry.1) =
      ((occurrences subject.tokens subject.watch.targetFunction).find? fun entry =>
        !followsDef subject.tokens entry.1 && opensCall subject.tokens entry.1).map
          (ranked subject.tokens) := by
    rw [occurrences_withoutTrivia, List.find?_map]
    congr 1
    refine List.find?_congr fun entry member => ?_
    obtain ⟨listed, -, significant⟩ := mem_occurrences member
    simp only [Function.comp_apply, ranked, followsDef_ranked listed significant,
      opensCall_ranked listed significant]
  funext output
  simp only [recursiveCall, tokens_withoutTrivia, watch_withoutTrivia, first, Option.isSome_map,
    Option.map_map]
  rfl

end Subject

/-- No check looks at newlines or comments. -/
theorem Check.runOn_withoutTrivia (subject : Subject) (output : Findings) (check : Check) :
    Check.runOn subject.withoutTrivia output check = Check.runOn subject output check := by
  cases check with
  | definedBeforeUse => exact congrFun subject.definedBeforeUse_withoutTrivia output
  | usageOrder => exact congrFun subject.usageOrder_withoutTrivia output
  | parameterUsage => exact congrFun subject.parameterUsage_withoutTrivia output
  | callArguments => exact congrFun subject.callArguments_withoutTrivia output
  | recursiveCall => exact congrFun subject.recursiveCall_withoutTrivia output
  | scopeCollision => rfl
  | scopeSeparation => rfl

/-- A battery finds the same, for its checks write the same on every output. -/
theorem Battery.run_withoutTrivia (battery : Battery) (subject : Subject) :
    battery.run subject.withoutTrivia = battery.run subject := by
  have checks : Check.runOn subject.withoutTrivia = Check.runOn subject :=
    funext₂ (Check.runOn_withoutTrivia subject)
  rw [Battery.run, Battery.run, checks]

/-- The semantic stage reports the same whatever newlines and comments stand among the tokens: the
verdicts, symbols, warnings and hard errors are those of the tokens without them, and so the same
for all token lists that differ in nothing else. -/
theorem CheckReport.of_significantTokens (watch : WatchList) (battery : Battery)
    (tokens : List Token) (tree : Node) :
    CheckReport.of watch battery tokens tree =
        CheckReport.of watch battery (significantTokens tokens) tree ∧
      ∀ others, significantTokens others = significantTokens tokens →
        CheckReport.of watch battery others tree = CheckReport.of watch battery tokens tree := by
  have reduced (tokens : List Token) : CheckReport.of watch battery tokens tree =
      CheckReport.of watch battery (significantTokens tokens) tree := by
    simp only [CheckReport.of]
    rw [← Battery.run_withoutTrivia]
    rfl
  refine ⟨reduced tokens, fun others same => ?_⟩
  rw [reduced others, same, ← reduced tokens]

/-- A call before the definition of its function. -/
def earlyCallSource : String :=
  "factorial(3)\ndef factorial(n):\n  return n"

/-- The same tokens in the same places, with comments behind them. -/
def commentedSource : String :=
  "factorial(3) # too early\ndef factorial(n): # here\n  return n # done\n"

theorem CheckReport.of_significantTokens_commented :
    significantTokens (tokenize commentedSource) = significantTokens (tokenize earlyCallSource) ∧
    ∀ tree, CheckReport.of {} Check.all (tokenize commentedSource) tree =
      CheckReport.of {} Check.all (tokenize earlyCallSource) tree := by
  have same : significantTokens (tokenize commentedSource) =
      significantTokens (tokenize earlyCallSource) := by decide +kernel
  exact ⟨same, fun tree =>
    (CheckReport.of_significantTokens {} Check.all (tokenize earlyCallSource) tree).2 _ same⟩

end SnippetCheck

import SnippetCheck.Proofs.Reading.Agreement
import SnippetCheck.Proofs.Report.Findings
import SnippetCheck.Report.Layout

namespace SnippetCheck

/-- The fault shows a literal that goes over several lines, as it is, in the place of what was
expected. -/
def Diagnostic.QuotesLines (tokens : List Token) (fault : Diagnostic) : Prop :=
  ∃ expected, ∃ token ∈ tokens, token.kind = .string ∧ ¬OneLine token.text ∧
    fault = .expectedToken expected token.line token.text

/-- What a fault says besides words of its own and line numbers. -/
def Diagnostic.texts : Diagnostic → List String
  | expectedToken expected _ found => [expected, found]
  | expectedAtEnd expected => [expected]
  | unexpectedToken found _ => [found]
  | unmatchedCloser bracket _ => [bracket]
  | mismatchedBracket closer _ opener => [closer, opener.bracket]
  | unclosedBrackets outermost inner => (outermost :: inner).map OpenBracket.bracket
  | _ => []

theorem OpenBracket.oneLine_describe {opened : OpenBracket} :
    OneLine opened.describe ↔ OneLine opened.bracket := by
  unfold describe
  simp +decide

theorem Diagnostic.oneLine_message {fault : Diagnostic} :
    OneLine fault.message ↔ ∀ text ∈ fault.texts, OneLine text := by
  unfold message texts
  cases fault with
  | unclosedBrackets outermost inner =>
    have label : OneLine "unclosed brackets: " := by decide
    have comma : OneLine ", " := by decide
    simp only [oneLine_append, label, true_and, oneLine_intercalate comma, List.forall_mem_map,
      OpenBracket.oneLine_describe]
  | _ =>
    simp only [oneLine_append, oneLine_toString, Nat.toString_eq_repr, oneLine_repr]
    simp [OneLine]

namespace Grammar

theorem oneLine_expectations : ∀ expected ∈ expectations, OneLine expected := by
  decide

/-- The program of a source beside itself. Of every fault it is told whether it takes one line. -/
def besideItself (source : String) : Comparison where
  tokens token token' := token = token' ∧ token ∈ significantTokens (tokenize source)
  faults fault _ := (∀ text ∈ fault.texts, OneLine text) ∨ fault.QuotesLines (tokenize source)
  kind same := congrArg Token.kind same.1
  text same := congrArg Token.text same.1
  expectedToken {token _ expected} asked same := by
    have words := oneLine_expectations expected asked
    by_cases text : OneLine token.text
    · exact .inl (by simp [Diagnostic.texts, words, text])
    · have string : token.kind = .string := by
        by_contra noString
        exact text (oneLine_of_mem_tokenize same.2 noString)
      exact .inr ⟨expected, token, List.mem_of_mem_filter same.2, string, text, rfl⟩
  expectedAtEnd asked := .inl (List.forall_mem_singleton.mpr (oneLine_expectations _ asked))
  unexpectedToken noString same :=
    .inl (List.forall_mem_singleton.mpr (oneLine_of_mem_tokenize same.2 noString))
  unmatchedCloser symbol same :=
    .inl (List.forall_mem_singleton.mpr (oneLine_of_mem_tokenize same.2 (by simp [symbol])))
  mismatchedBracket symbol same opener := by
    obtain ⟨opening, -, ⟨-, member⟩, symbol', rfl, -⟩ := opener
    have text := oneLine_of_mem_tokenize same.2 (by simp [symbol])
    have text' := oneLine_of_mem_tokenize member (by simp [symbol'])
    exact .inl (by simp [Diagnostic.texts, text, text'])
  unclosedBrackets brackets := by
    refine .inl (List.forall_mem_map.mpr fun opened member => ?_)
    obtain ⟨opened', -, token, -, ⟨-, within⟩, symbol, rfl, -⟩ := exists_of_forall₂ brackets member
    exact oneLine_of_mem_tokenize within (by simp [symbol])
  missingFunctionName _ _ := .inl nofun
  missingParameterList _ _ := .inl nofun
  missingFunctionColon _ _ := .inl nofun
  nestingTooDeep _ _ := .inl nofun
  noTokens := .inl nofun

theorem oneLine_message_iff {source : String} {fault : Diagnostic}
    (found : fault ∈ (parse (tokenize source)).2) :
    OneLine fault.message ↔ ¬fault.QuotesLines (tokenize source) := by
  have same : List.Forall₂ (besideItself source).tokens (significantTokens (tokenize source))
      (significantTokens (tokenize source)) :=
    List.forall₂_same.mpr fun _ member => ⟨rfl, member⟩
  obtain ⟨_, -, told⟩ := exists_of_forall₂ (agrees_parse same).2 found
  rw [Diagnostic.oneLine_message]
  refine ⟨fun oneLine => ?_, told.resolve_right⟩
  rintro ⟨expected, token, -, -, spans, rfl⟩
  exact spans (oneLine token.text (by simp [Diagnostic.texts]))

end Grammar

section Semantic

variable (source : String)

theorem isPlain_ofSource :
    Subject.IsPlain ⟨tokenize source,
      (collectSymbols (TreeReport.ofTokens (tokenize source)).tree).table, {}⟩ where
  names token member kind :=
    oneLine_of_mem_tokenize
      (List.mem_filter.mpr ⟨member, by simp [Token.isSignificant, Token.isTrivia, kind]⟩)
      (by simp [kind])
  symbols _ := oneLine_definitions fun _ => oneLine_of_isNamed
  function := (by decide : OneLine "factorial")
  parameter := (by decide : OneLine "n")
  builtin := (by decide : OneLine "print")
  pair := (by decide : OneLine "x" ∧ OneLine "n")

/-- What the semantic stage has to say about a source takes a line for each finding. -/
theorem oneLine_semantic :
    (∀ verdict ∈ (Report.ofSource {} source).semantic.verdicts, OneLine verdict.description) ∧
      (∀ warning ∈ (Report.ofSource {} source).semantic.warnings, OneLine warning) ∧
      ∀ error ∈ (Report.ofSource {} source).semantic.errors, OneLine error := by
  have findings := Battery.oneLine_run (isPlain_ofSource source) Check.all
  refine ⟨findings.verdicts, List.forall_mem_map.mpr ?_, List.forall_mem_map.mpr findings.errors⟩
  exact List.forall_mem_append.mpr
    ⟨fun _ => oneLine_collectedWarnings fun _ => oneLine_of_isNamed, findings.warnings⟩

theorem oneLine_reportMessage : OneLine (Report.ofSource {} source).message := by
  have success : OneLine Report.successMessage := by decide
  have failure : OneLine Report.failureMessage := by decide
  unfold Report.ofSource Report.assemble
  dsimp only
  split
  · exact success
  · exact failure

end Semantic

/-- The finding that a fault of reading is in the compact form. -/
def Diagnostic.finding (fault : Diagnostic) : String :=
  s!"error[syntax]: {fault.message}"

/-- What the compact form shows behind the faults of reading. -/
def Report.laterFindings (report : Report) : List String :=
  (report.semantic.verdicts.filter (!·.passed)).map (s!"fail[check]: {·.description}") ++
    report.semantic.warnings.map (s!"warning[semantic]: {·}") ++
    report.semantic.errors.map (s!"error[semantic]: {·}") ++ [report.message]

section Findings

variable (source : String)

theorem compactLines_ofSource :
    Layout.compactLines (Report.ofSource {} source) =
      (Grammar.parse (tokenize source)).2.map Diagnostic.finding ++
        (Report.ofSource {} source).laterFindings := by
  have faults : (Report.ofSource {} source).syntactic.errors =
      (Grammar.parse (tokenize source)).2.map Diagnostic.message := rfl
  rw [Layout.compactLines, Report.laterFindings, faults, List.map_map]
  simp only [List.append_assoc]
  rfl

theorem oneLine_laterFindings :
    ∀ line ∈ (Report.ofSource {} source).laterFindings, OneLine line := by
  obtain ⟨verdicts, warnings, errors⟩ := oneLine_semantic source
  have labelled {α : Type} {label : String} (plain : OneLine label) {entries : List α}
      {text : α → String} (each : ∀ entry ∈ entries, OneLine (text entry)) :
      ∀ line ∈ entries.map (label ++ text ·), OneLine line :=
    List.forall_mem_map.mpr fun entry member => oneLine_append.mpr ⟨plain, each entry member⟩
  simp only [Report.laterFindings, List.forall_mem_append, List.forall_mem_singleton]
  refine ⟨⟨⟨labelled (by decide) ?_, labelled (by decide) warnings⟩, labelled (by decide) errors⟩,
    oneLine_reportMessage source⟩
  exact fun verdict member => verdicts verdict (List.mem_of_mem_filter member)

end Findings

theorem oneLine_finding_iff {source : String} {fault : Diagnostic}
    (found : fault ∈ (Grammar.parse (tokenize source)).2) :
    OneLine fault.finding ↔ ¬fault.QuotesLines (tokenize source) := by
  have label : OneLine "error[syntax]: " := by decide
  simp only [Diagnostic.finding, oneLine_append, oneLine_toString, label, true_and]
  exact Grammar.oneLine_message_iff found

/-- In the compact form every finding has a line to itself, in the order of the stages, and the
message has the last. Only a fault that shows a literal over several lines takes more than one, so
that there are more lines than findings just when there is such a fault. -/
theorem compact_lines (source : String) (passingChecks symbols indented : Bool) :
    let report := Report.ofSource {} source
    let faults := (Grammar.parse (tokenize source)).2
    let failed := report.semantic.verdicts.filter (!·.passed)
    let shown := linesOf (Layout.render ⟨.compact, passingChecks, symbols, indented⟩ report)
    shown = faults.flatMap (fun fault => linesOf s!"error[syntax]: {fault.message}") ++
        (failed.map (s!"fail[check]: {·.description}") ++
        report.semantic.warnings.map (s!"warning[semantic]: {·}") ++
        report.semantic.errors.map (s!"error[semantic]: {·}") ++ [report.message]) ∧
      (∀ fault ∈ faults,
        linesOf s!"error[syntax]: {fault.message}" = [s!"error[syntax]: {fault.message}"] ↔
          ¬fault.QuotesLines (tokenize source)) ∧
      (shown.length = faults.length + failed.length + report.semantic.warnings.length +
          report.semantic.errors.length + 1 ↔
        ∀ fault ∈ faults, ¬fault.QuotesLines (tokenize source)) := by
  intro report faults failed shown
  have later := oneLine_laterFindings source
  have split : shown = (faults.map Diagnostic.finding).flatMap linesOf ++ report.laterFindings := by
    have some : Layout.compactLines report ≠ [] := by simp [Layout.compactLines]
    calc shown = (Layout.compactLines report).flatMap linesOf := linesOf_intercalate some
      _ = _ := by rw [compactLines_ofSource, List.flatMap_append, flatMap_linesOf later]
  refine ⟨?_, fun fault found => linesOf_eq_singleton_iff.trans (oneLine_finding_iff found), ?_⟩
  · rw [split, List.flatMap_map]
    rfl
  · have count : report.laterFindings.length =
        failed.length + report.semantic.warnings.length + report.semantic.errors.length + 1 := by
      simp [Report.laterFindings, failed, Nat.add_assoc]
    have each : (∀ fault ∈ faults, ¬fault.QuotesLines (tokenize source)) ↔
        ∀ line ∈ faults.map Diagnostic.finding, OneLine line := by
      rw [List.forall_mem_map]
      exact forall₂_congr fun fault found => (oneLine_finding_iff found).symm
    rw [each, ← (length_flatMap_linesOf _).2, split, List.length_append, count, List.length_map]
    omega

/-- A literal over two lines where a closing parenthesis is expected. -/
def brokenLiteralSource : String :=
  "f(1 'a\nb')"

/-- The first fault shows the literal, so that its two findings, those of the checks that fail and
the message are not on a line each. -/
theorem compact_lines_brokenLiteral :
    let report := Report.ofSource {} brokenLiteralSource
    let shown := linesOf (Layout.render ⟨.compact, true, true, true⟩ report)
    report.syntactic.errors.length + (report.semantic.verdicts.filter (!·.passed)).length +
      report.semantic.warnings.length + report.semantic.errors.length + 1 < shown.length := by
  intro report shown
  let fault : Diagnostic := .expectedToken "')'" 1 "a\nb"
  have found : fault ∈ (Grammar.parse (tokenize brokenLiteralSource)).2 := by decide +kernel
  have spans : ¬OneLine fault.finding := by decide
  have listed : fault.finding ∈ Layout.compactLines report := by
    rw [compactLines_ofSource]
    exact List.mem_append_left _ (List.mem_map_of_mem found)
  have count : (Layout.compactLines report).length = report.syntactic.errors.length +
      (report.semantic.verdicts.filter (!·.passed)).length + report.semantic.warnings.length +
      report.semantic.errors.length + 1 := by
    simp [Layout.compactLines, Nat.add_assoc]
  have whole : shown = (Layout.compactLines report).flatMap linesOf :=
    linesOf_intercalate (List.ne_nil_of_mem listed)
  obtain ⟨bound, exact⟩ := length_flatMap_linesOf (Layout.compactLines report)
  rw [← count, whole]
  exact Nat.lt_of_le_of_ne bound fun same => spans (exact.mp same.symm _ listed)

end SnippetCheck

import SnippetCheck.Proofs.Json.Record
import SnippetCheck.Service.Analysis

namespace SnippetCheck

open Json
open Json.Reader

variable {levels : Nat}

theorem TokenKind.decodes (kind : TokenKind) :
    Decodes (TokenKind.reader levels) kind.toJson (.ok kind) :=
  decodes_variant levels (by cases kind <;> decide)

theorem NodeKind.decodes (kind : NodeKind) :
    Decodes (NodeKind.reader levels) kind.toJson (.ok kind) :=
  decodes_variant levels (by cases kind <;> decide)

theorem SymbolKind.decodes (kind : SymbolKind) :
    Decodes (SymbolKind.reader levels) kind.toJson (.ok kind) :=
  decodes_variant levels (by cases kind <;> decide)

/-- A token is read back from its four members. -/
theorem Token.decodes (token : Token) (room : levels ≠ 0) :
    Decodes (Token.reader levels) token.toJson (.ok token) := by
  refine Shape.decodes_reader (by simp [Token.shape]) room ?_
  exact .read (token.kind.decodes.map _) <| .read ((decodes_string _).map _) <|
    .read ((decodes_word32 _).map _) <| .read ((decodes_word32 _).map _) .done

namespace KindCounts

theorem decodesMember (counts : KindCounts) (kind : TokenKind) (count : UInt64) :
    DecodesMember counts.member (kind.name, .number count.toNat)
      (.ok (counts.insert kind count)) := by
  intro text rest spells ends
  obtain ⟨blank, between, value⟩ := spells
  have named : TokenKind.named.lookup kind.name = some kind := by cases kind <;> decide
  rw [List.append_assoc, List.append_assoc, List.append_assoc, List.cons_append, member,
    outcome_bind_ok (outcome_variantName blank named), outcome_bind_ok (outcome_colon between),
    outcome_bind_ok (decodes_word64 count value ends)]
  rfl

/-- Counts are put in one after the other, each under the name of its kind. -/
theorem decodesMembers (entries : List (TokenKind × UInt64)) (counts : KindCounts) :
    DecodesMembers member counts (entries.map fun entry => (entry.1.name, .number entry.2.toNat))
      (.ok (entries.foldl (fun counts entry => counts.insert entry.1 entry.2) counts)) := by
  induction entries generalizing counts with
  | nil => exact .done
  | cons entry entries ih => exact .step (counts.decodesMember entry.1 entry.2) (ih _)

theorem get?_insert (counts : KindCounts) (kind other : TokenKind) (count : UInt64) :
    (counts.insert kind count).get? other =
      if other = kind then some count else counts.get? other :=
  rfl

/-- Entering the counts of some kinds takes those that are there over the old ones. -/
theorem get?_foldl_insert (counts start : KindCounts) (kinds : List TokenKind) (kind : TokenKind) :
    ((kinds.filterMap fun kind => (counts.get? kind).map (kind, ·)).foldl
        (fun counts entry => counts.insert entry.1 entry.2) start).get? kind =
      if kind ∈ kinds then (counts.get? kind).or (start.get? kind) else start.get? kind := by
  induction kinds generalizing start with
  | nil => simp
  | cons first kinds ih =>
    cases here : counts.get? first with
    | none =>
      simp only [List.filterMap_cons, here, Option.map_none, ih, List.mem_cons]
      by_cases same : kind = first <;> simp [same, here]
    | some count =>
      simp only [List.filterMap_cons, here, Option.map_some, List.foldl_cons, ih, List.mem_cons,
        get?_insert]
      by_cases same : kind = first <;> simp [same, here]

/-- The counts that are listed make up all that there are. -/
theorem foldl_insert_toList (counts : KindCounts) :
    counts.toList.foldl (fun counts entry => counts.insert entry.1 entry.2) empty = counts := by
  ext1
  funext kind
  rw [toList, get?_foldl_insert, if_pos kind.mem_all]
  simp [empty]

theorem decodes (counts : KindCounts) (room : levels ≠ 0) :
    Decodes (reader levels) counts.toJson (.ok counts) := by
  have members := decodesMembers counts.toList empty
  rw [foldl_insert_toList] at members
  refine decodes_object id room members rfl fun last _ gap rest blank => ?_
  exact outcome_bind_ok (outcome_closeObject blank)

end KindCounts

/-- Two brackets stand around each token of a report. -/
theorem TokenReport.decodes (report : TokenReport) (room : 3 ≤ levels) :
    Decodes (TokenReport.reader levels) report.toJson (.ok report) := by
  refine Shape.decodes_reader (by simp [TokenReport.shape]) (by omega) ?_
  have tokens : Decodes (Reader.list Token.reader (levels - 1))
      (.array (report.tokens.map Token.toJson)) (.ok report.tokens) :=
    decodes_list_ok _ (by omega) fun token _ => token.decodes (by omega)
  exact .read (tokens.map _) <| .read ((report.counts.decodes (by omega)).map _) .done

theorem Symbol.decodes (symbol : Symbol) (room : levels ≠ 0) :
    Decodes (Symbol.reader levels) symbol.toJson (.ok symbol) := by
  refine Shape.decodes_reader (by simp [Symbol.shape]) room ?_
  exact .read ((decodes_string _).map _) <| .read (symbol.kind.decodes.map _) <|
    .read ((decodes_string _).map _) <| .read ((decodes_word32 _).map _) .done

/-- The line of a verdict is left out where there is none, and is then read as none. -/
theorem Verdict.decodes (verdict : Verdict) (room : levels ≠ 0) :
    Decodes (Verdict.reader levels) verdict.toJson (.ok verdict) := by
  obtain ⟨description, passed, line⟩ := verdict
  refine Shape.decodes_reader (by simp [Verdict.shape]) room ?_
  refine .read ((decodes_string _).map _) <| .read ((decodes_bool _).map _) ?_
  cases line with
  | none => exact .omitted rfl .done
  | some line =>
    have number := decodes_nullable (decodes_word32 line) (by simp)
    exact .read (number.map _) .done

/-- Hard errors are not written, so none are read back. -/
theorem CheckReport.decodes (report : CheckReport) (room : 3 ≤ levels) :
    Decodes (CheckReport.reader levels) report.toJson (.ok { report with errors := [] }) := by
  refine Shape.decodes_reader (by simp [CheckReport.shape]) (by omega) ?_
  have verdicts : Decodes (Reader.list Verdict.reader (levels - 1))
      (.array (report.verdicts.map Verdict.toJson)) (.ok report.verdicts) :=
    decodes_list_ok _ (by omega) fun verdict _ => verdict.decodes (by omega)
  have symbols : Decodes (Reader.list Symbol.reader (levels - 1))
      (.array (report.symbols.map Symbol.toJson)) (.ok report.symbols) :=
    decodes_list_ok _ (by omega) fun symbol _ => symbol.decodes (by omega)
  have warnings : Decodes (Reader.list (fun _ => Reader.string) (levels - 1))
      (.strings report.warnings) (.ok report.warnings) :=
    decodes_strings _ (by omega)
  exact .read (verdicts.map _) <| .read (symbols.map _) <| .read (warnings.map _) <|
    .read ((decodes_bool _).map _) .done

theorem Request.decodes (request : Request) (room : levels ≠ 0) :
    Decodes (Request.reader levels) request.toJson (.ok request) := by
  refine Shape.decodes_reader (by simp [Request.shape]) room ?_
  exact .read ((decodes_string _).map _) .done

theorem WatchList.decodes (watch : WatchList) (room : 2 ≤ levels) :
    Decodes (WatchList.reader levels) watch.toJson (.ok watch) := by
  refine Shape.decodes_reader (by simp [WatchList.shape]) (by omega) ?_
  have pair : Decodes (Reader.pair Reader.string (levels - 1))
      (.strings [watch.scopePair.1, watch.scopePair.2]) (.ok watch.scopePair) :=
    decodes_pair (by omega) (decodes_string _) (decodes_string _)
  exact .read ((decodes_string _).map _) <| .read ((decodes_string _).map _) <|
    .read ((decodes_string _).map _) <| .read (pair.map _) .done

/-- Settings are read back with the names that the checks look for. -/
theorem Settings.decodes (settings : Settings) (room : 3 ≤ levels) :
    Decodes (Settings.reader levels) settings.toJson (.ok settings) := by
  obtain ⟨watch, limit⟩ := settings
  refine Shape.decodes_reader (by simp [Settings.shape]) (by omega) ?_
  refine .read ((watch.decodes (by omega)).map _) ?_
  cases limit with
  | none => exact .read ((decodes_nullable_null _).map _) .done
  | some limit =>
    have number := decodes_nullable (decodes_word64 limit) (by simp)
    exact .read (number.map _) .done

end SnippetCheck

import SnippetCheck.Proofs.Check.OnePerIndex
import SnippetCheck.Proofs.Check.UsageOrder
import SnippetCheck.Proofs.Token.Lines

namespace SnippetCheck

namespace Neighbours

/-- The sign `=` follows the token at an index, trivia apart. -/
def IsTarget (tokens : List Token) (index : Nat) : Prop :=
  ∃ next sign, index < next ∧ tokens[next]? = some sign ∧ sign.isOperator "=" = true ∧
    NoneBetween Token.isSignificant tokens index next

/-- The token at an index is an identifier of a name that is assigned to there. -/
def IsTargetNamed (tokens : List Token) (name : String) (index : Nat) : Prop :=
  IsTarget tokens index ∧
    ∃ token, tokens[index]? = some token ∧ token.kind = .identifier ∧ token.text = name

section Targets

variable {tokens : List Token} {index : Nat} {name : String}

theorem isAssigned_iff : isAssigned tokens index = true ↔ IsTarget tokens index := by
  simp only [isAssigned, Neighbours.next, Option.any_bind, Option.any_eq_true, Function.comp_apply,
    nextIndex_eq_some_iff]
  constructor
  · rintro ⟨next, ⟨order, -, gap⟩, sign, found, equals⟩
    exact ⟨next, sign, order, found, equals, gap⟩
  · rintro ⟨next, sign, order, found, equals, gap⟩
    have significant := Token.isSignificant_of_kind (Token.kind_of_isOperator equals) (by decide)
    exact ⟨next, ⟨order, ⟨sign, found, significant⟩, gap⟩, sign, found, equals⟩

theorem assigns_iff_isTargetNamed :
    Assigns tokens name index ↔ IsTargetNamed tokens name index := by
  simp only [Assigns, IsTargetNamed, isAssigned_iff, Token.is_iff]

/-- A scan of the tokens with their indexes reports one after the other what it finds. -/
theorem onePerIndex_indexed {β : Type} (scan : Nat × Token → Option β) (tokens : List Token) :
    OnePerIndex (fun index report => ∃ token, tokens[index]? = some token ∧
      scan (index, token) = some report) ((indexed tokens).filterMap scan) := by
  have next (before : List Token) (token : Token) :
      (indexed (before ++ [token])).filterMap scan =
        (indexed before).filterMap scan ++ (scan (before.length, token)).toList := by
    rw [indexed, List.zipIdx_append, List.map_append, List.filterMap_append, Nat.zero_add]
    cases found : scan (before.length, token) <;> simp [indexed, found]
  have scanned := OnePerIndex.of_scan (fun tokens => (indexed tokens).filterMap scan)
    (fun before token => scan (before.length, token)) rfl next tokens
  refine scanned.congr fun index report => exists_congr fun token => and_congr_right fun found => ?_
  have bound := (List.getElem?_eq_some_iff.mp found).1
  rw [List.length_take_of_le (Nat.le_of_lt bound)]

end Targets
end Neighbours

open Neighbours

/-- The token at an index reads a name that is assigned to later in the text and not before: an
identifier that is no target, neither a builtin nor by its current symbol a parameter or a
function. The warning names its line and that of the first assignment. -/
def EarlyRead (subject : Subject) (index : Nat) (warning : Warning) : Prop :=
  ∃ token, subject.tokens[index]? = some token ∧ token.kind = .identifier ∧
    ¬ IsTarget subject.tokens index ∧
    isBuiltin token.text = false ∧
    (∀ symbol, subject.table.lookup token.text = some symbol →
      symbol.kind ≠ .parameter ∧ symbol.kind ≠ .function) ∧
    (∀ earlier < index, ¬ IsTargetNamed subject.tokens token.text earlier) ∧
    ∃ first target, index < first ∧ subject.tokens[first]? = some target ∧
      IsTargetNamed subject.tokens token.text first ∧
      (∀ between, index < between → between < first →
        ¬ IsTargetNamed subject.tokens token.text between) ∧
      warning = .usedBeforeAssignment token.text token.line target.line

namespace Subject

variable {subject : Subject}

theorem isExempt_eq_false_iff_forall {name : String} :
    subject.isExempt name = false ↔
      isBuiltin name = false ∧ ∀ symbol, subject.table.lookup name = some symbol →
        symbol.kind ≠ .parameter ∧ symbol.kind ≠ .function := by
  rw [isExempt, Bool.or_eq_false_iff]
  cases subject.table.lookup name <;> simp

/-- The warning at a token is that of a read before the first assignment. -/
theorem exists_warningAt_iff {index : Nat} {warning : Warning} :
    (∃ token, subject.tokens[index]? = some token ∧
        subject.warningAt (index, token) = some warning) ↔ EarlyRead subject index warning := by
  refine exists_congr fun token => and_congr_right fun found => ?_
  rw [warningAt_eq_some_iff, isExempt_eq_false_iff_forall, ← Bool.not_eq_true, isAssigned_iff,
    and_assoc]
  simp only [assigns_iff_isTargetNamed]
  refine and_congr_right fun kind => and_congr_right fun unassigned => and_congr_right fun _ =>
    and_congr_right fun _ => ⟨?_, ?_⟩
  · rintro ⟨first, target, there, assigns, none, order, rfl⟩
    exact ⟨fun earlier before => none earlier (Nat.lt_trans before order),
      first, target, order, there, assigns, fun between _ before => none between before, rfl⟩
  · rintro ⟨none, first, target, order, there, assigns, between, rfl⟩
    refine ⟨first, target, there, assigns, fun place before named => ?_, order, rfl⟩
    rcases Nat.lt_trichotomy place index with earlier | rfl | later
    · exact none place earlier named
    · exact unassigned named.1
    · exact between place later before named

end Subject

/-- The lines of two places in a text, one before the other, as they are counted. -/
def LinesInOrder (text : List Char) (line assigned : UInt32) : Prop :=
  ∃ before behind, before <+: behind ∧ behind <+: text ∧
    line = (lineBehind before).toUInt32 ∧ assigned = (lineBehind behind).toUInt32

theorem linesInOrder_tokenize {source : String} {index later : Nat} {token other : Token}
    (order : index < later) (found : (tokenize source)[index]? = some token)
    (there : (tokenize source)[later]? = some other) :
    LinesInOrder source.toList token.line other.line := by
  obtain ⟨_, rfl⟩ := List.getElem?_eq_some_iff.mp found
  obtain ⟨_, rfl⟩ := List.getElem?_eq_some_iff.mp there
  have ascend := Cursor.tokens_ascend (Lexeme.lexes_lexemes source.toList) Position.start
  obtain ⟨before, behind, inside, place, line, line'⟩ :=
    List.pairwise_iff_getElem.mp ascend index later _ _ order
  rw [Position.start_after] at line line'
  exact ⟨before, behind, inside, place, line, line'⟩

theorem LinesInOrder.le {text : List Char} {line assigned : UInt32}
    (inOrder : LinesInOrder text line assigned) (fits : lineBehind text < UInt32.size) :
    line ≤ assigned := by
  obtain ⟨before, behind, ⟨more, rfl⟩, ⟨rest, rfl⟩, rfl, rfl⟩ := inOrder
  rw [lineBehind_append] at fits
  have counted : lineBehind before ≤ lineBehind (before ++ more) :=
    lineBehind_append before more ▸ Nat.le_add_right _ _
  rw [UInt32.le_iff_toNat_le, UInt32.toNat_ofNat_of_lt' (by omega),
    UInt32.toNat_ofNat_of_lt' (by omega)]
  exact counted

/-- The check on the order of use warns, in the order of the tokens, of every read of a name that
is assigned to later and not before. In the tokens of a text the read does not stand on a later
line than the assignment, as long as the lines can be counted. -/
theorem usageOrder_earlyReads (subject : Subject) :
    (Check.run subject .usageOrder).verdicts = [] ∧
    (Check.run subject .usageOrder).errors = [] ∧
    OnePerIndex (EarlyRead subject) (Check.run subject .usageOrder).warnings ∧
    ∀ source : String, subject.tokens = tokenize source →
      ∀ name line assigned, .usedBeforeAssignment name line assigned ∈
          (Check.run subject .usageOrder).warnings →
        LinesInOrder source.toList line assigned ∧
          (lineBehind source.toList < UInt32.size → line ≤ assigned) := by
  rw [Check.run_usageOrder]
  have one : OnePerIndex (EarlyRead subject) ((indexed subject.tokens).filterMap subject.warningAt) :=
    (onePerIndex_indexed subject.warningAt subject.tokens).congr fun index warning =>
      Subject.exists_warningAt_iff.symm
  refine ⟨rfl, rfl, one, fun source tokens name line assigned member => ?_⟩
  obtain ⟨index, token, found, -, -, -, -, -, first, target, order, there, -, -, same⟩ :=
    one.exists_of_mem member
  rw [tokens] at found there
  cases same
  have inOrder := linesInOrder_tokenize order found there
  exact ⟨inOrder, inOrder.le⟩

/-- A variable that is read in two places before its first assignment, with a comment before the
sign, and once behind it. -/
def earlySource : String :=
  "print(total)\nif total > limit:\n  total # sum\n   = 3\ntotal = total + 1"

theorem usageOrder_earlyReads_source :
    (Subject.ofTokens (tokenize earlySource) {}).tokens = tokenize earlySource ∧
    (Check.run (Subject.ofTokens (tokenize earlySource) {}) .usageOrder).warnings =
      [.usedBeforeAssignment "total" 1 3, .usedBeforeAssignment "total" 2 3] ∧
    lineBehind earlySource.toList < UInt32.size ∧
    LinesInOrder earlySource.toList 2 3 ∧ (2 : UInt32) ≤ 3 := by
  have warnings : (Check.run (Subject.ofTokens (tokenize earlySource) {}) .usageOrder).warnings =
      [.usedBeforeAssignment "total" 1 3, .usedBeforeAssignment "total" 2 3] := by decide +kernel
  have few : lineBehind earlySource.toList < UInt32.size := by decide +kernel
  obtain ⟨-, -, -, lines⟩ := usageOrder_earlyReads (Subject.ofTokens (tokenize earlySource) {})
  have member : .usedBeforeAssignment "total" 2 3 ∈
      (Check.run (Subject.ofTokens (tokenize earlySource) {}) .usageOrder).warnings := by
    rw [warnings]
    exact .tail _ (.head _)
  obtain ⟨inOrder, ascending⟩ := lines earlySource rfl "total" 2 3 member
  exact ⟨rfl, warnings, few, inOrder, ascending few⟩

end SnippetCheck

import SnippetCheck.Proofs.Lists
import SnippetCheck.Proofs.Reading.Agreement
import SnippetCheck.Token.Lexer

namespace SnippetCheck

/-- A bracket without its line number. -/
def OpenBracket.eraseLine (opened : OpenBracket) : OpenBracket :=
  { opened with line := 0 }

/-- A fault without its line numbers. -/
def Diagnostic.eraseLines : Diagnostic → Diagnostic
  | expectedToken expected _ found => expectedToken expected 0 found
  | expectedAtEnd expected => expectedAtEnd expected
  | unexpectedToken found _ => unexpectedToken found 0
  | unmatchedCloser bracket _ => unmatchedCloser bracket 0
  | mismatchedBracket closer _ opener => mismatchedBracket closer 0 opener.eraseLine
  | unclosedBrackets outermost inner =>
    unclosedBrackets outermost.eraseLine (inner.map OpenBracket.eraseLine)
  | missingFunctionName _ => missingFunctionName 0
  | missingParameterList _ => missingParameterList 0
  | missingFunctionColon _ => missingFunctionColon 0
  | nestingTooDeep _ => nestingTooDeep 0
  | noTokens => noTokens

/-- A token without its place. -/
def Token.unplaced (token : Token) : TokenKind × String :=
  (token.kind, token.text)

namespace Grammar

section Layout

variable {opened opened' : OpenBracket} {token token' : Token} {tokens tokens' : List Token}

theorem kind_eq_of_unplaced (same : token.unplaced = token'.unplaced) : token.kind = token'.kind :=
  congrArg Prod.fst same

theorem text_eq_of_unplaced (same : token.unplaced = token'.unplaced) : token.text = token'.text :=
  congrArg Prod.snd same

theorem eraseLine_eq_of_openedBy
    (same : OpenedBy (fun token token' => token.unplaced = token'.unplaced) opened opened') :
    opened.eraseLine = opened'.eraseLine := by
  obtain ⟨token, token', same, -, rfl, rfl⟩ := same
  rw [OpenBracket.eraseLine, OpenBracket.eraseLine, text_eq_of_unplaced same]

/-- Tokens stand for one another wherever they stand, and faults answer one another whatever
lines they name. -/
def layout : Comparison where
  tokens token token' := token.unplaced = token'.unplaced
  faults fault fault' := fault.eraseLines = fault'.eraseLines
  kind := kind_eq_of_unplaced
  text := text_eq_of_unplaced
  expectedToken _ same := congrArg (Diagnostic.expectedToken _ 0) (text_eq_of_unplaced same)
  expectedAtEnd _ := rfl
  unexpectedToken _ same := congrArg (Diagnostic.unexpectedToken · 0) (text_eq_of_unplaced same)
  unmatchedCloser _ same := congrArg (Diagnostic.unmatchedCloser · 0) (text_eq_of_unplaced same)
  mismatchedBracket _ same opener :=
    congrArg₂ (Diagnostic.mismatchedBracket · 0 ·) (text_eq_of_unplaced same)
      (eraseLine_eq_of_openedBy opener)
  unclosedBrackets brackets := by
    have same := (map_eq_iff_forall₂ OpenBracket.eraseLine).mpr
      (brackets.imp fun _ _ => eraseLine_eq_of_openedBy)
    obtain ⟨outermost, inner⟩ := List.cons.inj same
    exact congrArg₂ Diagnostic.unclosedBrackets outermost inner
  missingFunctionName _ _ := rfl
  missingParameterList _ _ := rfl
  missingFunctionColon _ _ := rfl
  nestingTooDeep _ _ := rfl
  noTokens := rfl

/-- Line breaks, comments and the places of tokens make no difference to what is read: programs of
the same lexemes have the same tree and the same faults, line numbers apart. -/
theorem parse_eq_up_to_lines (tokens tokens' : List Token)
    (same : (significantTokens tokens).map Token.unplaced =
      (significantTokens tokens').map Token.unplaced) :
    (TreeReport.ofTokens tokens).valid = (TreeReport.ofTokens tokens').valid ∧
      (TreeReport.ofTokens tokens).tree.eraseLines =
        (TreeReport.ofTokens tokens').tree.eraseLines ∧
      (parse tokens).2.map Diagnostic.eraseLines = (parse tokens').2.map Diagnostic.eraseLines := by
  have alike : List.Forall₂ layout.tokens (significantTokens tokens) (significantTokens tokens') :=
    (map_eq_iff_forall₂ _).mp same
  obtain ⟨tree, answers⟩ := agrees_parse alike
  have faults := (map_eq_iff_forall₂ Diagnostic.eraseLines).mpr answers
  refine ⟨?_, tree, faults⟩
  rw [TreeReport.ofTokens, TreeReport.ofTokens, Bool.eq_iff_iff, List.isEmpty_iff,
    List.isEmpty_iff, ← List.map_eq_nil_iff, faults, List.map_eq_nil_iff]

/-- A program with faults of several kinds. -/
def faultySource : String :=
  "def f(a, 1)\n  return (a +]\nprint('x'"

/-- The same lexemes on other lines, with comments. -/
def respacedSource : String :=
  "# broken\ndef f(a,\n  1) return ( a\n+ ]print ( 'x' # end"

theorem parse_eq_up_to_lines_respaced :
    (significantTokens (tokenize faultySource)).map Token.unplaced =
        (significantTokens (tokenize respacedSource)).map Token.unplaced ∧
      (TreeReport.ofTokens (tokenize faultySource)).tree.eraseLines =
        (TreeReport.ofTokens (tokenize respacedSource)).tree.eraseLines ∧
      (parse (tokenize faultySource)).2.map Diagnostic.eraseLines =
        (parse (tokenize respacedSource)).2.map Diagnostic.eraseLines := by
  have same : (significantTokens (tokenize faultySource)).map Token.unplaced =
      (significantTokens (tokenize respacedSource)).map Token.unplaced := by
    decide +kernel
  exact ⟨same, (parse_eq_up_to_lines _ _ same).2⟩

end Layout

end Grammar
end SnippetCheck

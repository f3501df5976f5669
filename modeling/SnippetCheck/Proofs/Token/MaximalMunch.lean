import Mathlib.Data.List.Forall2
import SnippetCheck.Proofs.Token.LexicalGrammar

namespace SnippetCheck

namespace Lexeme

theorem Munches.kind_ne_error {text : List Char} {lexeme : Lexeme}
    (munches : Munches text lexeme) : lexeme.kind ≠ .error := by
  cases munches <;> nofun

/-- A text begins with the one lexeme that is read there. -/
theorem begins_iff {c : Char} {cs : List Char} {lexeme : Lexeme} :
    Begins (c :: cs) lexeme ↔ (read c cs).1 = lexeme := by
  have read_of {found : Lexeme} (munches : Munches (c :: cs) found) : (read c cs).1 = found := by
    obtain ⟨d, ds, same, found⟩ := read_of_munches munches
    obtain ⟨rfl, rfl⟩ := List.cons.inj same
    exact found
  constructor
  · rintro (munches | none)
    · exact read_of munches
    · exact (munches_read c cs).resolve_left (none _)
  · rintro rfl
    rcases munches_read c cs with munches | error
    · exact .munch munches
    · rw [error]
      refine .error fun found munches => munches.kind_ne_error ?_
      rw [← read_of munches, error]
      rfl

/-- A text cut into lexemes: blanks, then the lexeme with which the rest begins, and so on until
nothing but blanks is left. -/
inductive Lexes : List Char → List Lexeme → Prop
  | blank {gap : List Char} : Blank gap → Lexes gap []
  | lexeme {gap cs rest : List Char} {c : Char} {lexeme : Lexeme} {lexemes : List Lexeme} :
      Blank gap → ¬Blank [c] → Begins (c :: cs) lexeme → lexeme.spelling ++ rest = c :: cs →
      Lexes rest lexemes → Lexes (gap ++ c :: cs) (lexeme :: lexemes)

end Lexeme

theorem isBlank_iff {c : Char} : isBlank c = true ↔ Blank [c] := by
  simp [isBlank, Blank]

theorem Blank.dropWhile_append {gap : List Char} (blank : Blank gap) (rest : List Char) :
    (gap ++ rest).dropWhile isBlank = rest.dropWhile isBlank := by
  refine List.dropWhile_append_of_pos fun c member => ?_
  exact isBlank_iff.mpr fun d single => blank d (List.mem_singleton.mp single ▸ member)

theorem dropWhile_of_solid {gap : List Char} {c : Char} (blank : Blank gap) (solid : ¬Blank [c])
    (cs : List Char) : (gap ++ c :: cs).dropWhile isBlank = c :: cs := by
  rw [blank.dropWhile_append, List.dropWhile_cons_of_neg (mt isBlank_iff.mp solid)]

theorem takeWhile_of_solid {gap : List Char} {c : Char} (blank : Blank gap) (solid : ¬Blank [c])
    (cs : List Char) : (gap ++ c :: cs).takeWhile isBlank = gap := by
  have whole := @List.takeWhile_append_dropWhile _ isBlank (gap ++ c :: cs)
  rw [dropWhile_of_solid blank solid] at whole
  exact List.append_cancel_right whole

theorem solid_of_dropWhile {text cs : List Char} {c : Char}
    (here : text.dropWhile isBlank = c :: cs) : ¬Blank [c] := by
  have head := List.head?_dropWhile_not isBlank text
  simpa [here, ← isBlank_iff] using head

/-- A text is cut into lexemes in one way. -/
theorem Lexeme.Lexes.unique {text : List Char} {lexemes others : List Lexeme}
    (lexes : Lexes text lexemes) (lexes' : Lexes text others) : lexemes = others := by
  induction lexes generalizing others with
  | @blank gap blank =>
    have skipped := blank.dropWhile_append []
    rw [List.append_nil] at skipped
    cases lexes' with
    | blank => rfl
    | lexeme blank' solid =>
      rw [dropWhile_of_solid blank' solid] at skipped
      cases skipped
  | @lexeme gap cs rest c lexeme lexemes blank solid begins taken _ ih =>
    have skipped := dropWhile_of_solid blank solid cs
    generalize gap ++ c :: cs = text at lexes' skipped
    cases lexes' with
    | blank blank' =>
      rw [← List.append_nil text, blank'.dropWhile_append] at skipped
      cases skipped
    | lexeme blank' solid' begins' taken' others' =>
      obtain ⟨rfl, rfl⟩ := List.cons.inj ((dropWhile_of_solid blank' solid' _).symm.trans skipped)
      obtain rfl := (begins_iff.mp begins).symm.trans (begins_iff.mp begins')
      obtain rfl := List.append_cancel_left (taken.trans taken'.symm)
      rw [ih others']

/-- The token is of the kind of the lexeme, and has its text. -/
structure Token.Holds (token : Token) (lexeme : Lexeme) : Prop where
  kind : token.kind = lexeme.kind
  text : token.text = String.ofList lexeme.text

theorem Cursor.lexes (cursor : Cursor) :
    ∃ lexemes, Lexeme.Lexes cursor.rest lexemes ∧
      List.Forall₂ Token.Holds cursor.tokens lexemes := by
  fun_induction tokens cursor with
  | case1 cursor ended => exact ⟨[], .blank (blank_of_next?_none ended), .nil⟩
  | case2 cursor token after found ih =>
    obtain ⟨lexemes, lexes, held⟩ := ih
    have whole := @List.takeWhile_append_dropWhile _ isBlank cursor.rest
    simp only [next?, skipBlank] at found
    split at found
    · cases found
    · next c cs here =>
      cases found
      rw [here] at whole
      refine ⟨(Lexeme.read c cs).1 :: lexemes, ?_, .cons ⟨rfl, rfl⟩ held⟩
      rw [← whole]
      exact .lexeme (blank_takeWhile _) (solid_of_dropWhile here) (Lexeme.begins_iff.mpr rfl)
        (Lexeme.read_append c cs) lexes

/-- The tokens of a source hold the lexemes into which the lexical grammar cuts it, and there is
no other way to cut it. -/
theorem tokenize_lexes (source : String) :
    ∃ lexemes, List.Forall₂ Token.Holds (tokenize source) lexemes ∧
      ∀ others, Lexeme.Lexes source.toList others ↔ others = lexemes := by
  obtain ⟨lexemes, lexes, held⟩ := (Cursor.ofSource source).lexes
  exact ⟨lexemes, held, fun others =>
    ⟨fun lexes' => lexes'.unique lexes, fun same => same ▸ lexes⟩⟩

example : (tokenize "x***=1.2.3!==y").map Token.text =
    ["x", "**", "*=", "1.2", ".", "3", "!=", "=", "y"] := by
  decide +kernel

end SnippetCheck

import SnippetCheck.Proofs.Token.Fences

namespace SnippetCheck

namespace Unicode

/-- White space is no letter: no code point of one table is in the other. -/
theorem isAlphabetic_of_isWhiteSpace {c : Char} (white : isWhiteSpace c = true) :
    isAlphabetic c = false := by
  have apart : ∀ range ∈ whiteSpace.ranges, ∀ offset < range.2 - range.1 + 1,
      alphabetic.contains (range.1 + offset) = false := by
    decide +kernel
  obtain ⟨range, member, above, below⟩ := (whiteSpace.contains_iff _).mp white
  have here := apart range member (c.toNat - range.1) (by omega)
  rwa [Nat.add_sub_cancel' above] at here

end Unicode

theorem not_blank_of_isWordStart {c : Char} (start : isWordStart c = true) : ¬Blank [c] := by
  intro blank
  have white := (blank c (List.mem_singleton_self c)).2
  rcases Bool.or_eq_true_iff.mp start with letter | underscore
  · rw [Unicode.isAlphabetic_of_isWhiteSpace white] at letter
    cases letter
  · rw [eq_of_beq underscore] at white
    cases white

namespace Lexeme

/-- A word, reserved or not. -/
def word (text : String) : Lexeme :=
  plain (if isReserved text then .keyword else .identifier) text.toList

def sign (text : String) : Lexeme :=
  plain .operator text.toList

def mark (c : Char) : Lexeme :=
  plain .symbol [c]

def numeral (text : String) : Lexeme :=
  plain .number text.toList

def quoted (quote : Char) (text : String) : Lexeme :=
  ⟨.string, text.toList, quote :: (text.toList ++ [quote])⟩

/-- A quote that can enclose a text as it is. -/
def Fits (quote : Char) (text : String) : Prop :=
  IsQuote quote ∧ Shielded quote text.toList

/-- Double quotes for a text in which these are shielded, and single ones for any other. -/
def quoteFor (text : String) : Char :=
  if (untilQuote '"' (text.toList ++ ['"'])).2 = ['"'] then '"' else '\''

/-- Whether a quote can enclose a text is found by searching for it. -/
theorem shielded_iff {quote : Char} {cs : List Char} (isQuote : IsQuote quote) :
    Shielded quote cs ↔ (untilQuote quote (cs ++ [quote])).2 = [quote] := by
  constructor
  · exact fun shielded => by rw [untilQuote_of_shielded isQuote shielded]
  · intro closed
    have whole := untilQuote_append quote (cs ++ [quote])
    rw [closed] at whole
    rcases untilQuote_cases quote (cs ++ [quote]) with ⟨more, -, shielded⟩ | ⟨ended, -⟩
    · rwa [List.append_cancel_right whole] at shielded
    · rw [ended] at closed
      cases closed

/-- If a quote fits at all, then the one that is chosen does. -/
theorem fits_quoteFor {text : String} (quotable : ∃ quote, Fits quote text) :
    Fits (quoteFor text) text := by
  rw [quoteFor]
  split
  · next double => exact ⟨.inl rfl, (shielded_iff (.inl rfl)).mpr double⟩
  · next double =>
    obtain ⟨_, rfl | rfl, shielded⟩ := quotable
    · exact absurd ((shielded_iff (.inl rfl)).mp shielded) double
    · exact ⟨.inr rfl, shielded⟩

/-- A lexeme of the grammar of expressions that is read as it is where a space or nothing stands
behind it. -/
structure Separable (lexeme : Lexeme) : Prop where
  munches : ∀ rest : List Char, (∀ c ∈ rest.head?, c = ' ') →
    Munches (lexeme.spelling ++ rest) lexeme
  visible : ∀ c ∈ lexeme.spelling.head?, ¬Blank [c]
  significant : lexeme.kind ≠ .newline ∧ lexeme.kind ≠ .comment

/-- A space behind a lexeme does not change it. -/
theorem Munches.separable {lexeme : Lexeme} (munches : Munches lexeme.spelling lexeme)
    (closed : lexeme.IsClosed) (visible : ∀ c ∈ lexeme.spelling.head?, ¬Blank [c])
    (significant : lexeme.kind ≠ .newline ∧ lexeme.kind ≠ .comment) : lexeme.Separable := by
  refine ⟨fun rest behind => ?_, visible, significant⟩
  cases rest with
  | nil => simpa using munches
  | cons c rest =>
    obtain rfl := behind c rfl
    exact munches.fenced closed isFence_space (fun comment => absurd comment significant.2) rest

theorem separable_word {text : String} (isWord : IsWord text.toList) : (word text).Separable := by
  have munches : Munches text.toList (word text) := by
    by_cases reserved : text ∈ reservedWords
    · rw [word, if_pos (isReserved_iff.mpr reserved)]
      exact .keyword (longest_self isWord) (by simpa using reserved)
    · rw [word, if_neg (mt isReserved_iff.mp reserved)]
      exact .name (longest_self isWord) (by simpa using reserved)
  have kind : (word text).kind = .keyword ∨ (word text).kind = .identifier := by
    simp only [word, plain]
    split
    · exact .inl rfl
    · exact .inr rfl
  refine munches.separable ?_ ?_ ?_
  · rcases kind with kind | kind <;> simp [IsClosed, kind]
  · obtain ⟨c, tail, same, start, -⟩ := isWord
    rintro d head
    obtain rfl : c = d := by simpa [word, plain, same] using head
    exact not_blank_of_isWordStart start
  · rcases kind with kind | kind <;> simp [kind]

theorem separable_sign {text : String} (isOperator : text.toList ∈ operators) :
    (sign text).Separable := by
  have munches : Munches text.toList (sign text) := .operator (longest_self isOperator)
  refine munches.separable nofun ?_ (by simp [sign, plain])
  have visible : ∀ operator ∈ operators, operator.head?.all (!isBlank ·) = true := by decide
  intro c head
  have notBlank := visible _ isOperator
  rw [show text.toList.head? = some c from head] at notBlank
  exact mt isBlank_iff.mpr (by simpa using notBlank)

theorem separable_mark {c : Char} (isMark : isPunctuation c = true) : (mark c).Separable := by
  have munches : Munches [c] (mark c) := .symbol isMark
  refine munches.separable nofun ?_ (by simp [mark, plain])
  rintro d ⟨⟩
  refine mt isBlank_iff.mpr ?_
  simp only [isPunctuation, List.contains_iff_mem, List.mem_cons, List.not_mem_nil, or_false]
    at isMark
  rcases isMark with rfl | rfl | rfl | rfl | rfl | rfl | rfl | rfl | rfl | rfl <;> decide

theorem separable_numeral {text : String} (isNumber : IsNumber text.toList) :
    (numeral text).Separable := by
  have munches : Munches text.toList (numeral text) := .number (longest_self isNumber)
  refine munches.separable nofun ?_ (by simp [numeral, plain])
  obtain ⟨c, tail, same, digit⟩ := isNumber.starts
  rintro d head
  obtain rfl : c = d := by simpa [numeral, plain, same] using head
  have visible : ∀ c ∈ "0123456789".toList, isBlank c ≠ true :=
    List.all_iff_forall_prop.mp (by decide)
  exact mt isBlank_iff.mpr (visible c (mem_digits digit))

theorem separable_quoted {quote : Char} {text : String} (fits : Fits quote text) :
    (quoted quote text).Separable := by
  have whole := whole_literal fits.1 fits.2
  have munches : Munches (quote :: (text.toList ++ [quote])) (quoted quote text) :=
    .literal fits.1 fits.2
  exact munches.separable whole.closed whole.solid (by simp [quoted])

/-- Lexemes one after the other with one space between. -/
def spaced (lexemes : List Lexeme) : String :=
  String.ofList ([' '].intercalate (lexemes.map spelling))

/-- Lexemes with spaces between are read back. -/
theorem lexes_spaced {lexemes : List Lexeme} (separable : ∀ lexeme ∈ lexemes, lexeme.Separable) :
    Lexes (spaced lexemes).toList lexemes := by
  rw [spaced, String.toList_ofList]
  induction lexemes with
  | nil => exact .blank nofun
  | cons lexeme lexemes ih =>
    obtain ⟨this, others⟩ := List.forall_mem_cons.mp separable
    have joined {rest : List Char} (space : ∀ c ∈ rest.head?, c = ' ')
        (lexes : Lexes rest lexemes) : Lexes (lexeme.spelling ++ rest) (lexeme :: lexemes) :=
      Begins.lexes_cons (.munch (this.munches rest space)) this.visible lexes
    cases lexemes with
    | nil =>
      have last : Lexes (lexeme.spelling ++ []) [lexeme] := joined nofun (.blank nofun)
      simpa using last
    | cons next lexemes =>
      have space : Blank [' '] := isBlank_iff.mp (by decide)
      simpa using joined (by simp) ((ih others).behind space)

theorem significantTokens_of_holds {tokens : List Token} {lexemes : List Lexeme}
    (separable : ∀ lexeme ∈ lexemes, lexeme.Separable)
    (held : List.Forall₂ Token.Holds tokens lexemes) : significantTokens tokens = tokens := by
  induction held with
  | nil => rfl
  | @cons token _ _ _ holds _ ih =>
    obtain ⟨this, others⟩ := List.forall_mem_cons.mp separable
    have kept := this.significant
    rw [← holds.kind] at kept
    have significant : token.isSignificant = true := by
      simpa [Token.isSignificant, Token.isTrivia] using kept
    rw [significantTokens, List.filter_cons_of_pos significant, ← significantTokens, ih others]

/-- Lexemes with blanks between them are read back as they are. -/
theorem tokenize_spaced {lexemes : List Lexeme}
    (separable : ∀ lexeme ∈ lexemes, lexeme.Separable) :
    List.Forall₂ Token.Holds (tokenize (spaced lexemes)) lexemes :=
  tokenize_holds (lexes_spaced separable)

end Lexeme
end SnippetCheck

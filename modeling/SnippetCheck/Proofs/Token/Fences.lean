import SnippetCheck.Proofs.Lists
import SnippetCheck.Proofs.Token.MaximalMunch

namespace SnippetCheck

namespace Lexeme

section Closing

/-- A literal has its closing quote. -/
def IsClosed (lexeme : Lexeme) : Prop :=
  lexeme.kind = .string →
    lexeme.spelling = '"' :: (lexeme.text ++ ['"']) ∨
      lexeme.spelling = '\'' :: (lexeme.text ++ ['\''])

instance (lexeme : Lexeme) : Decidable lexeme.IsClosed :=
  inferInstanceAs (Decidable (_ → _))

theorem not_isClosed_open (quote : Char) (content : List Char) :
    ¬IsClosed ⟨.string, content, quote :: content⟩ := by
  intro closed
  rcases closed rfl with same | same <;>
    · have lengths := congrArg List.length same
      simp at lengths

/-- The lexemes of a text, read one after the other. -/
def lexemes (text : List Char) : List Lexeme :=
  match _here : text.dropWhile isBlank with
  | [] => []
  | c :: cs => (read c cs).1 :: lexemes (read c cs).2
termination_by text.length
decreasing_by
  have shorter := (List.dropWhile_sublist (l := text) isBlank).length_le
  rw [_here] at shorter
  exact Nat.lt_of_le_of_lt (read_rest_length c cs) shorter

/-- The lexemes that are read are a cut of the text. -/
theorem lexes_lexemes (text : List Char) : Lexes text (lexemes text) := by
  fun_induction lexemes text with
  | case1 text ended =>
    have whole := @List.takeWhile_append_dropWhile _ isBlank text
    rw [ended, List.append_nil] at whole
    exact whole ▸ .blank (blank_takeWhile text)
  | case2 text c cs here ih =>
    have whole := @List.takeWhile_append_dropWhile _ isBlank text
    rw [here] at whole
    nth_rewrite 1 [← whole]
    exact .lexeme (blank_takeWhile text) (solid_of_dropWhile here) (begins_iff.mpr rfl)
      (read_append c cs) ih

end Closing

/-- A character that no word, number or operator has in it. -/
structure IsFence (fence : Char) : Prop where
  word : isWordPart fence = false
  digit : fence.isDigit = false
  point : fence ≠ '.'
  sign : ∀ operator ∈ operators, fence ∉ operator

theorem isFence_space : IsFence ' ' :=
  ⟨by decide, by decide, by decide, by decide⟩

theorem isFence_feed : IsFence '\n' :=
  ⟨by decide, by decide, by decide, by decide⟩

section Spellings

variable {fence : Char} {spelling text : List Char}

/-- No word goes on across a fence. -/
theorem IsFence.not_isWordStart (isFence : IsFence fence) : isWordStart fence = false := by
  have other := isFence.word
  simp only [isWordPart, isWordStart, Bool.or_eq_false_iff] at other ⊢
  exact ⟨other.1.1, other.2⟩

theorem IsWord.notMem (isWord : IsWord spelling) (isFence : IsFence fence) : fence ∉ spelling := by
  obtain ⟨c, tail, rfl, start, parts⟩ := isWord
  rintro (_ | ⟨_, member⟩)
  · rw [isFence.not_isWordStart] at start
    cases start
  · have part := parts fence member
    rw [isFence.word] at part
    cases part

/-- No number goes on across a fence. -/
theorem IsNumber.notMem (isNumber : IsNumber spelling) (isFence : IsFence fence) :
    fence ∉ spelling := by
  have noDigit {digits : List Char} (all : IsDigits digits) : fence ∉ digits := by
    intro member
    have digit := all fence member
    rw [isFence.digit] at digit
    cases digit
  rcases isNumber with ⟨-, all⟩ | ⟨-, all, all'⟩
  · exact noDigit all
  · simp [noDigit all, noDigit all', isFence.point]

theorem IsComment.notMem (isComment : IsComment spelling) : '\n' ∉ spelling := by
  obtain ⟨body, rfl, within⟩ := isComment
  simpa using within

variable {Spelled : List Char → Prop}

theorem longest_self (spelled : Spelled spelling) : Longest Spelled spelling spelling :=
  ⟨List.prefix_rfl, spelled, fun _ begins _ => begins.length_le⟩

/-- A fence behind the text does not make the longest spelling longer. -/
theorem Longest.fenced (longest : Longest Spelled spelling text)
    (noFence : ∀ cs, Spelled cs → fence ∉ cs) (rest : List Char) :
    Longest Spelled spelling (text ++ fence :: rest) :=
  ⟨longest.begins.trans (List.prefix_append _ _), longest.spelled, fun other begins spelled =>
    longest.longest other (prefix_of_notMem (noFence other spelled) begins) spelled⟩

end Spellings

section Contexts

variable {fence : Char} {text : List Char} {lexeme : Lexeme}

/-- A lexeme is found by itself as it is found in a longer text. -/
theorem Munches.alone (munches : Munches text lexeme) : Munches lexeme.spelling lexeme := by
  cases munches with
  | newline => exact .newline
  | comment longest => exact .comment (longest_self longest.spelled)
  | keyword longest reserved => exact .keyword (longest_self longest.spelled) reserved
  | name longest free => exact .name (longest_self longest.spelled) free
  | number longest => exact .number (longest_self longest.spelled)
  | literal isQuote shielded => exact .literal isQuote shielded
  | openLiteral isQuote unclosed => exact .openLiteral isQuote unclosed
  | symbol mark => exact .symbol mark
  | operator longest => exact .operator (longest_self longest.spelled)

/-- A fence behind a text does not change what the text begins with. A comment goes on to the end
of its line, though, and a literal to its closing quote. -/
theorem Munches.fenced (munches : Munches text lexeme) (closed : lexeme.IsClosed)
    (isFence : IsFence fence) (endsComment : lexeme.kind = .comment → fence = '\n')
    (rest : List Char) : Munches (text ++ fence :: rest) lexeme := by
  cases munches with
  | newline => exact .newline
  | comment longest =>
    obtain rfl := endsComment rfl
    exact .comment (longest.fenced (fun _ => IsComment.notMem) rest)
  | keyword longest reserved =>
    exact .keyword (longest.fenced (fun _ isWord => isWord.notMem isFence) rest) reserved
  | name longest free =>
    exact .name (longest.fenced (fun _ isWord => isWord.notMem isFence) rest) free
  | number longest =>
    exact .number (longest.fenced (fun _ isNumber => isNumber.notMem isFence) rest)
  | @literal quote content behind isQuote shielded =>
    have munches : Munches (quote :: (content ++ quote :: (behind ++ fence :: rest))) _ :=
      .literal isQuote shielded
    simpa using munches
  | openLiteral => exact absurd closed (not_isClosed_open _ _)
  | symbol mark => exact .symbol mark
  | operator longest => exact .operator (longest.fenced isFence.sign rest)

theorem exists_munches_of_isWordStart {c : Char} (start : isWordStart c = true) (cs : List Char) :
    ∃ found, Munches (c :: cs) found := by
  have longest := longest_word start cs
  by_cases reserved : String.ofList (c :: (run isWordPart cs).1) ∈ reservedWords
  · exact ⟨_, .keyword longest reserved⟩
  · exact ⟨_, .name longest reserved⟩

/-- Whether a lexeme is found depends on the first character, and on the operators that the text
begins with: an exclamation mark is one only with the sign behind it. -/
theorem Munches.exists_of_operators {c : Char} {cs cs' : List Char}
    (munches : Munches (c :: cs) lexeme)
    (signs : ∀ operator ∈ operators, operator <+: c :: cs → operator <+: c :: cs') :
    ∃ found, Munches (c :: cs') found := by
  cases munches with
  | newline => exact ⟨_, .newline⟩
  | comment longest =>
    obtain ⟨body, rfl, -⟩ := longest.spelled
    obtain ⟨rfl, -⟩ := List.cons_prefix_cons.mp longest.begins
    exact ⟨_, .comment (longest_comment cs')⟩
  | keyword longest | name longest =>
    obtain ⟨d, ds, same, start, -⟩ := longest.word
    obtain ⟨rfl, rfl⟩ := List.cons.inj same
    exact exists_munches_of_isWordStart start cs'
  | number longest =>
    obtain ⟨d, ds, same, digit, -⟩ := longest.digits
    obtain ⟨rfl, rfl⟩ := List.cons.inj same
    exact ⟨_, .number (longest_number digit cs')⟩
  | literal isQuote => exact ⟨_, munches_literal isQuote cs'⟩
  | openLiteral isQuote => exact ⟨_, munches_literal isQuote cs'⟩
  | symbol mark => exact ⟨_, .symbol mark⟩
  | operator longest =>
    obtain ⟨d, ds, tail, same, -, rfl⟩ := longest.sign
    obtain ⟨rfl, rfl⟩ := List.cons.inj same
    obtain ⟨-, begins⟩ := List.cons_prefix_cons.mp (signs _ longest.spelled longest.begins)
    have member := cons_mem_operators.mp longest.spelled
    obtain ⟨found, atSign⟩ := Option.isSome_iff_exists.mp (operatorTail_of_mem member begins)
    exact ⟨_, .operator (longest_operator atSign)⟩

/-- A lexeme is found where nothing stands behind it. -/
theorem Begins.alone (begins : Begins text lexeme) : Begins lexeme.spelling lexeme := by
  rcases begins with munches | @⟨c, rest, none⟩
  · exact .munch munches.alone
  · refine .error fun found munches => ?_
    obtain ⟨found, munches⟩ := munches.exists_of_operators fun operator _ begins =>
      begins.trans (List.cons_prefix_cons.mpr ⟨rfl, List.nil_prefix⟩)
    exact none found munches

/-- A fence behind a text changes nothing of what is found at its head. No operator reaches over it,
so what is no lexeme does not become one. -/
theorem Begins.fenced (begins : Begins text lexeme) (closed : lexeme.IsClosed)
    (isFence : IsFence fence) (endsComment : lexeme.kind = .comment → fence = '\n')
    (rest : List Char) : Begins (text ++ fence :: rest) lexeme := by
  rcases begins with munches | @⟨c, cs, none⟩
  · exact .munch (munches.fenced closed isFence endsComment rest)
  · refine .error fun found munches => ?_
    obtain ⟨found, munches⟩ := munches.exists_of_operators fun operator member begins =>
      prefix_of_notMem (isFence.sign operator member) begins
    exact none found munches

end Contexts

section Pieces

variable {text gap rest : List Char} {lexeme : Lexeme} {lexemes : List Lexeme}

/-- Blanks before a text belong to no lexeme. -/
theorem Lexes.behind (lexes : Lexes text lexemes) (blank : Blank gap) :
    Lexes (gap ++ text) lexemes := by
  have join {gap' : List Char} (blank' : Blank gap') : Blank (gap ++ gap') :=
    fun c member => (List.mem_append.mp member).elim (blank c) (blank' c)
  cases lexes with
  | blank blank' => exact .blank (join blank')
  | lexeme blank' solid begins taken others =>
    rw [← List.append_assoc]
    exact .lexeme (join blank') solid begins taken others

theorem Begins.exists_cons (begins : Begins text lexeme) : ∃ c cs, text = c :: cs := by
  rcases begins with munches | none
  · obtain ⟨c, cs, same, -⟩ := read_of_munches munches
    exact ⟨c, cs, same⟩
  · exact ⟨_, _, rfl⟩

theorem Begins.spelling_head {c : Char} {cs : List Char} (begins : Begins (c :: cs) lexeme) :
    lexeme.spelling.head? = some c :=
  begins_iff.mp begins ▸ read_head c cs

/-- A lexeme is put down before others. -/
theorem Begins.lexes_cons (begins : Begins (lexeme.spelling ++ rest) lexeme)
    (solid : ∀ c ∈ lexeme.spelling.head?, ¬Blank [c]) (others : Lexes rest lexemes) :
    Lexes (lexeme.spelling ++ rest) (lexeme :: lexemes) := by
  obtain ⟨c, cs, same⟩ := begins.exists_cons
  rw [same] at begins ⊢
  have noGap : Blank [] := nofun
  exact .lexeme noGap (solid c begins.spelling_head) begins same others

/-- A lexeme that can be put down anywhere: it is found where it stands alone, begins with a
character that is not skipped, and leaves no literal open. -/
structure Whole (lexeme : Lexeme) : Prop where
  begins : Begins lexeme.spelling lexeme
  solid : ∀ c ∈ lexeme.spelling.head?, ¬Blank [c]
  closed : lexeme.IsClosed

/-- Behind it there has to be a fence, unless nothing is. -/
theorem Whole.lexes_cons (whole : lexeme.Whole) (others : Lexes rest lexemes)
    (separate : ∀ c ∈ rest.head?, IsFence c ∧ (lexeme.kind = .comment → c = '\n')) :
    Lexes (lexeme.spelling ++ rest) (lexeme :: lexemes) := by
  refine Begins.lexes_cons ?_ whole.solid others
  cases rest with
  | nil => simpa using whole.begins
  | cons fence rest =>
    obtain ⟨isFence, endsComment⟩ := separate fence rfl
    exact whole.begins.fenced whole.closed isFence endsComment rest

/-- A literal whose text shields no quote is found again wherever it is written. -/
theorem whole_literal {quote : Char} {content : List Char} (isQuote : IsQuote quote)
    (shielded : Shielded quote content) :
    Whole ⟨.string, content, quote :: (content ++ [quote])⟩ := by
  refine ⟨.munch (.literal isQuote shielded), ?_, fun _ => ?_⟩
  · rintro c ⟨⟩
    rcases isQuote with rfl | rfl <;> exact mt isBlank_iff.mpr (by decide)
  · rcases isQuote with rfl | rfl
    · exact .inl rfl
    · exact .inr rfl

end Pieces

end Lexeme

/-- The tokens of a source hold the lexemes it is cut into. -/
theorem tokenize_holds {source : String} {lexemes : List Lexeme}
    (lexes : Lexeme.Lexes source.toList lexemes) :
    List.Forall₂ Token.Holds (tokenize source) lexemes := by
  obtain ⟨others, lexes', held⟩ := (Cursor.ofSource source).lexes
  rwa [lexes'.unique lexes] at held

/-- Every literal of a source has its closing quote. -/
def Terminated (source : String) : Prop :=
  ∀ lexeme ∈ Lexeme.lexemes source.toList, lexeme.IsClosed

instance (source : String) : Decidable (Terminated source) :=
  inferInstanceAs (Decidable (∀ lexeme ∈ _, _))

end SnippetCheck

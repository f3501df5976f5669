import SnippetCheck.Proofs.Token.Fences

namespace SnippetCheck

/-- Whether a quote occurs in a text with no backslash before it to shield it. -/
def occursBare (quote : Char) : List Char → Bool
  | [] => false
  | '\\' :: _ :: cs => occursBare quote cs
  | c :: cs => c == quote || occursBare quote cs

/-- The quote to write around a text: a double one, unless one occurs bare in it. -/
def enclosingQuote (cs : List Char) : Char :=
  if occursBare '"' cs then '\'' else '"'

namespace Token

/-- A token as source text. Only a literal is not written as its text alone. -/
def written (token : Token) : List Char :=
  if token.kind = .string then
    let quote := enclosingQuote token.text.toList
    quote :: (token.text.toList ++ [quote])
  else token.text.toList

/-- What stands between a token and the one before it. -/
def gap (token : Token) : List Char :=
  if token.kind = .newline then [] else [' ']

/-- Tokens one after the other, with what stands between them. -/
def writtenAll : List Token → List Char
  | [] => []
  | [token] => token.written
  | token :: next :: tokens => token.written ++ (next.gap ++ writtenAll (next :: tokens))

end Token

/-- A token list as source text, with a space between tokens but none before a newline. -/
def printed (tokens : List Token) : String :=
  String.ofList (Token.writtenAll tokens)

namespace Lexeme

section Quotes

variable {quote other : Char} {cs : List Char}

theorem occursBare_cons {c : Char} (plain : c ≠ '\\') (cs : List Char) :
    occursBare quote (c :: cs) = (c == quote || occursBare quote cs) := by
  rw [occursBare]
  rintro _ _ rfl
  exact absurd rfl plain

theorem Shielded.not_occursBare (shielded : Shielded quote cs) : occursBare quote cs = false := by
  induction shielded with
  | nil => rfl
  | other notQuote plain _ ih =>
    rw [occursBare_cons plain, ih, Bool.or_false]
    exact beq_false_of_ne notQuote
  | pair _ ih => exact ih

/-- Whatever quotes a text stood between, it can stand between others that are not bare in it. -/
theorem Shielded.of_not_occursBare (shielded : Shielded other cs)
    (absent : occursBare quote cs = false) : Shielded quote cs := by
  induction shielded with
  | nil => exact .nil
  | other notQuote plain _ ih =>
    rw [occursBare_cons plain, Bool.or_eq_false_iff] at absent
    exact .other (ne_of_beq_false absent.1) plain (ih absent.2)
  | pair _ ih => exact .pair (ih absent)

/-- The quote that is chosen is one of the two. -/
theorem isQuote_enclosingQuote (cs : List Char) : IsQuote (enclosingQuote cs) := by
  rw [enclosingQuote]
  split
  · exact .inr rfl
  · exact .inl rfl

/-- A text that some quote can enclose is enclosed by the one that is chosen. -/
theorem Shielded.enclosingQuote (isQuote : IsQuote quote) (shielded : Shielded quote cs) :
    Shielded (enclosingQuote cs) cs := by
  rw [SnippetCheck.enclosingQuote]
  split
  · next bare =>
    rcases isQuote with rfl | rfl
    · rw [shielded.not_occursBare] at bare
      cases bare
    · exact shielded
  · next notBare => exact shielded.of_not_occursBare (by simpa using notBare)

end Quotes

section Lexemes

variable {text rest : List Char} {lexeme next : Lexeme} {lexemes : List Lexeme} {token : Token}

theorem Lexes.begins (lexes : Lexes text lexemes) :
    ∀ lexeme ∈ lexemes, ∃ text, Begins text lexeme := by
  induction lexes with
  | blank => nofun
  | lexeme _ _ begins _ _ ih => exact List.forall_mem_cons.mpr ⟨⟨_, begins⟩, ih⟩

theorem Begins.of_newline (begins : Begins text lexeme) (kind : lexeme.kind = .newline) :
    lexeme = plain .newline ['\n'] := by
  rcases begins with munches | none
  · cases munches <;> first | rfl | cases kind
  · cases kind

theorem Begins.longest_of_comment (begins : Begins text lexeme)
    (kind : lexeme.kind = .comment) : Longest IsComment lexeme.spelling text := by
  rcases begins with munches | none
  · cases munches <;> first | assumption | cases kind
  · cases kind

/-- A comment goes on to the end of its line. -/
theorem Longest.feed_behind {spelling : List Char} {c : Char}
    (longest : Longest IsComment spelling (spelling ++ c :: rest)) : c = '\n' := by
  by_contra other
  obtain ⟨body, rfl, within⟩ := longest.spelled
  have further : IsComment ('#' :: body ++ [c]) :=
    ⟨body ++ [c], rfl, by simp [within, Ne.symm other]⟩
  have bound := longest.longest ('#' :: body ++ [c]) ⟨rest, by simp⟩ further
  rw [List.length_append, List.length_singleton] at bound
  exact Nat.not_succ_le_self _ bound

/-- Only a newline can come behind a comment. -/
theorem Lexes.newline_of_comment (lexes : Lexes text (lexeme :: next :: lexemes))
    (comment : lexeme.kind = .comment) : next = plain .newline ['\n'] := by
  cases lexes with
  | lexeme blank solid begins taken others =>
    have longest := begins.longest_of_comment comment
    rw [← taken] at longest
    cases others with
    | @lexeme gap cs rest c _ _ blank' solid' begins' taken' others' =>
      cases gap with
      | nil =>
        obtain rfl := longest.feed_behind
        exact (begins_iff.mp begins').symm
      | cons d gap => exact absurd longest.feed_behind (blank' d List.mem_cons_self).1

/-- The text of a closed literal can be enclosed by its quote. -/
theorem Begins.shielded_of_string (begins : Begins text lexeme) (closed : lexeme.IsClosed)
    (kind : lexeme.kind = .string) : ∃ quote, IsQuote quote ∧ Shielded quote lexeme.text := by
  rcases begins with munches | none
  · cases munches with
    | literal isQuote shielded => exact ⟨_, isQuote, shielded⟩
    | openLiteral => exact absurd closed (not_isClosed_open _ _)
    | _ => cases kind
  · cases kind

/-- Every lexeme can be written anywhere, if it is closed. A literal may get other quotes. -/
theorem exists_whole {c : Char} {cs : List Char} (begins : Begins (c :: cs) lexeme)
    (solid : ¬Blank [c]) (closed : lexeme.IsClosed) (holds : token.Holds lexeme) :
    ∃ whole : Lexeme, whole.Whole ∧ token.Holds whole ∧ token.written = whole.spelling := by
  by_cases literal : lexeme.kind = .string
  · obtain ⟨quote, isQuote, shielded⟩ := begins.shielded_of_string closed literal
    refine ⟨_, whole_literal (isQuote_enclosingQuote _) (shielded.enclosingQuote isQuote),
      ⟨holds.kind.trans literal, holds.text⟩, ?_⟩
    rw [Token.written, if_pos (holds.kind.trans literal), holds.text, String.toList_ofList]
  · have plain : lexeme.spelling = lexeme.text := by
      have found := @read_text c cs (read c cs).2 lexeme (by rw [← begins_iff.mp begins])
      exact (found.resolve_right fun string => literal string.1).2
    refine ⟨lexeme, ⟨begins.alone, ?_, closed⟩, holds, ?_⟩
    · rintro d head
      obtain rfl := Option.some.inj (begins.spelling_head.symm.trans head)
      exact solid
    · rw [Token.written, if_neg (holds.kind ▸ literal), holds.text, String.toList_ofList, plain]

end Lexemes

end Lexeme

section Printed

open Lexeme

variable {text : List Char} {lexemes : List Lexeme} {tokens : List Token}

theorem Token.blank_gap (token : Token) : Blank token.gap := by
  rw [gap]
  split
  · nofun
  · exact isBlank_iff.mp (by decide)

theorem exists_writtenAll_cons (token : Token) (tokens : List Token) :
    ∃ tail, Token.writtenAll (token :: tokens) = token.written ++ tail := by
  cases tokens with
  | nil => exact ⟨[], (List.append_nil _).symm⟩
  | cons next tokens => exact ⟨_, rfl⟩

/-- The next token is set off by a fence, which is the end of the line behind a comment. -/
theorem separate_next {lexeme next : Lexeme} {token : Token}
    (lexes : Lexes text (lexeme :: next :: lexemes)) (holds : token.Holds next) :
    ∀ c ∈ (token.gap ++ Token.writtenAll (token :: tokens)).head?,
      IsFence c ∧ (lexeme.kind = .comment → c = '\n') := by
  by_cases feed : token.kind = .newline
  · obtain ⟨_, begins⟩ := lexes.begins next (by simp)
    have isNewline := begins.of_newline (holds.kind.symm.trans feed)
    obtain ⟨tail, same⟩ := exists_writtenAll_cons token tokens
    have written : token.written = ['\n'] := by
      rw [Token.written, feed, holds.text, isNewline]
      simp [plain]
    rw [same, written, Token.gap, if_pos feed]
    rintro c ⟨⟩
    exact ⟨isFence_feed, fun _ => rfl⟩
  · rw [Token.gap, if_neg feed]
    rintro c ⟨⟩
    refine ⟨isFence_space, fun comment => absurd ?_ feed⟩
    rw [holds.kind, lexes.newline_of_comment comment, plain]

/-- Tokens of a text without open literals are read back as they are written. What stands behind a
token depends on the one that follows, if one does. -/
theorem exists_lexes_writtenAll (lexes : Lexes text lexemes)
    (closed : ∀ lexeme ∈ lexemes, lexeme.IsClosed)
    (held : List.Forall₂ Token.Holds tokens lexemes) :
    ∃ again, Lexes (Token.writtenAll tokens) again ∧ List.Forall₂ Token.Holds tokens again := by
  induction lexes generalizing tokens with
  | blank =>
    cases held
    exact ⟨[], .blank nofun, .nil⟩
  | @lexeme gap cs rest c lexeme lexemes blank solid begins taken others ih =>
    obtain ⟨this, later⟩ := List.forall_mem_cons.mp closed
    cases held with
    | @cons token _ tokens _ holds held =>
      obtain ⟨whole, isWhole, holds', written⟩ := exists_whole begins solid this holds
      obtain ⟨again, lexesAgain, heldAgain⟩ := ih later held
      refine ⟨whole :: again, ?_, .cons holds' heldAgain⟩
      cases held with
      | nil =>
        have single := isWhole.lexes_cons lexesAgain (by simp [Token.writtenAll])
        simpa [Token.writtenAll, written] using single
      | @cons next second tokens lexemes holdsNext held =>
        rw [Token.writtenAll, written]
        refine isWhole.lexes_cons (lexesAgain.behind next.blank_gap) ?_
        have separate := @separate_next _ _ tokens _ _ _
          (.lexeme blank solid begins taken others) holdsNext
        rwa [← holds.kind, holds'.kind] at separate

end Printed

/-- Tokens have the kinds and texts of the lexemes that they hold. -/
theorem map_eq_of_holds {tokens : List Token} {lexemes : List Lexeme}
    (held : List.Forall₂ Token.Holds tokens lexemes) :
    tokens.map (fun token => (token.kind, token.text)) =
      lexemes.map fun lexeme => (lexeme.kind, String.ofList lexeme.text) := by
  induction held with
  | nil => rfl
  | cons holds _ ih => rw [List.map_cons, List.map_cons, holds.kind, holds.text, ih]

/-- The tokens of a text without open literals are read back when they are written out. -/
theorem tokenize_printed (source : String) (terminated : Terminated source) :
    (tokenize (printed (tokenize source))).map (fun token => (token.kind, token.text)) =
      (tokenize source).map fun token => (token.kind, token.text) := by
  have lexes := Lexeme.lexes_lexemes source.toList
  obtain ⟨again, lexesAgain, heldAgain⟩ :=
    exists_lexes_writtenAll lexes terminated (tokenize_holds lexes)
  have held : List.Forall₂ Token.Holds (tokenize (printed (tokenize source))) again :=
    tokenize_holds (by rwa [printed, String.toList_ofList])
  rw [map_eq_of_holds held, map_eq_of_holds heldAgain]

/-- Quotes of both kinds with the other within, an exclamation mark alone, a number that ends in a
point, and a comment that ends its line. -/
def crampedSource : String :=
  "s+='a\"b'\"c'\"! =2.# d\ny"

theorem tokenize_printed_cramped :
    Terminated crampedSource ∧
    printed (tokenize crampedSource) = "s += 'a\"b' \"c'\" ! = 2. # d\n y" ∧
    (tokenize (printed (tokenize crampedSource))).map (fun token => (token.kind, token.text)) =
      (tokenize crampedSource).map fun token => (token.kind, token.text) := by
  have terminated : Terminated crampedSource := by decide +kernel
  have text : printed (tokenize crampedSource) = "s += 'a\"b' \"c'\" ! = 2. # d\n y" := by
    decide +kernel
  exact ⟨terminated, text, tokenize_printed _ terminated⟩

end SnippetCheck

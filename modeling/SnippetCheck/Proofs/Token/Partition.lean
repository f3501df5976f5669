import Mathlib.Data.List.TakeWhile
import SnippetCheck.Proofs.Token.Position
import SnippetCheck.Token.Lexer

namespace SnippetCheck

/-- White space other than the line feed. -/
def Blank (gap : List Char) : Prop :=
  ∀ c ∈ gap, c ≠ '\n' ∧ Unicode.isWhiteSpace c = true

def IsQuote (c : Char) : Prop :=
  c = '"' ∨ c = '\''

/-- The characters of a complete token. Only a string literal differs from its text, by the two
equal quotes around it. -/
inductive Token.Spells (token : Token) : List Char → Prop
  | plain : token.kind ≠ .string → Spells token token.text.toList
  | literal {quote : Char} : token.kind = .string → IsQuote quote →
      Spells token (quote :: (token.text.toList ++ [quote]))

/-- A text that stands behind `before` is cut into tokens without loss: blanks, the characters of
the first token, and so on, each token carrying the line and column at which it begins. Only the
last token can be a literal without its closing quote. -/
inductive Partition : List Char → List Char → List Token → Prop
  | blank {before gap : List Char} : Blank gap → Partition before gap []
  | token {before gap spelling rest : List Char} {token : Token} {tokens : List Token} :
      Blank gap → token.StandsBehind (before ++ gap) → spelling ≠ [] → token.Spells spelling →
      Partition (before ++ gap ++ spelling) rest tokens →
      Partition before (gap ++ spelling ++ rest) (token :: tokens)
  | unclosed {before gap : List Char} {quote : Char} {token : Token} :
      Blank gap → token.StandsBehind (before ++ gap) → token.kind = .string → IsQuote quote →
      Partition before (gap ++ quote :: token.text.toList) [token]

theorem Partition.stands {before rest : List Char} {tokens : List Token}
    (partition : Partition before rest tokens) :
    ∀ token ∈ tokens, ∃ more, token.StandsBehind (before ++ more) := by
  induction partition with
  | blank => simp
  | @token before gap spelling _ _ _ _ stands _ _ _ ih =>
    rintro token (_ | ⟨_, member⟩)
    · exact ⟨_, stands⟩
    · obtain ⟨more, later⟩ := ih token member
      exact ⟨gap ++ (spelling ++ more), by simpa only [List.append_assoc] using later⟩
  | unclosed _ stands =>
    rintro token (_ | ⟨_, member⟩)
    · exact ⟨_, stands⟩
    · cases member

/-- The tokens of a partition stand one behind the other. -/
theorem Partition.pairwise {before rest : List Char} {tokens : List Token}
    (partition : Partition before rest tokens) : tokens.Pairwise Token.Precedes := by
  induction partition with
  | blank => exact .nil
  | @token before gap spelling _ _ _ _ stands nonempty _ others ih =>
    refine .cons (fun later member => ?_) ih
    obtain ⟨more, behind⟩ := others.stands later member
    rw [List.append_assoc] at behind
    exact stands.precedes behind (by simp [nonempty])
  | unclosed => simp

namespace Lexeme

/-- The search for a quote stops at that quote or at the end of the text. -/
theorem untilQuote_rest (quote : Char) (cs : List Char) :
    (untilQuote quote cs).2 = [] ∨ ∃ more, (untilQuote quote cs).2 = quote :: more := by
  fun_induction untilQuote quote cs <;> simp_all +zetaDelta

theorem text_of_plain {kind : TokenKind} {spelling rest rest' : List Char} {lexeme : Lexeme}
    (other : kind ≠ .string) (same : (plain kind spelling, rest) = (lexeme, rest')) :
    lexeme.kind ≠ .string ∧ lexeme.spelling = lexeme.text := by
  cases same
  exact ⟨other, rfl⟩

/-- What a token carries of a lexeme: the whole of it, or what stands behind an opening quote,
less the closing quote if there is one. -/
theorem read_text {c : Char} {cs rest : List Char} {lexeme : Lexeme}
    (found : read c cs = (lexeme, rest)) :
    (lexeme.kind ≠ .string ∧ lexeme.spelling = lexeme.text) ∨
    (lexeme.kind = .string ∧ IsQuote c ∧
      (lexeme.spelling = c :: (lexeme.text ++ [c]) ∨
        lexeme.spelling = c :: lexeme.text ∧ rest = [])) := by
  unfold read at found
  split at found
  · exact .inl (text_of_plain (by decide) found)
  split at found
  · exact .inl (text_of_plain (by decide) found)
  split at found
  · exact .inl (text_of_plain (by split <;> decide) found)
  split at found
  · exact .inl (text_of_plain (by decide) found)
  split at found
  · next quote =>
    cases found
    refine .inr ⟨rfl, quote, ?_⟩
    rcases untilQuote_rest c cs with ended | ⟨more, closed⟩
    · exact .inr ⟨by simp [ended, accept], by simp [ended, accept]⟩
    · exact .inl (by simp [closed, accept])
  split at found
  · exact .inl (text_of_plain (by decide) found)
  split at found
  · exact .inl (text_of_plain (by decide) found)
  · exact .inl (text_of_plain (by decide) found)

end Lexeme

theorem blank_takeWhile (cs : List Char) : Blank (cs.takeWhile isBlank) := by
  intro c member
  have blank := List.mem_takeWhile_imp member
  simpa [isBlank] using blank

namespace Cursor

theorem blank_of_next?_none {cursor : Cursor} (ended : cursor.next? = none) :
    Blank cursor.rest := by
  have skipped : cursor.rest.dropWhile isBlank = [] := by
    simp only [next?, skipBlank] at ended
    split at ended
    · assumption
    · cases ended
  rw [← List.takeWhile_append_dropWhile (p := isBlank) (l := cursor.rest), skipped,
    List.append_nil]
  exact blank_takeWhile _

/-- What one step takes: blanks, and the lexeme that begins with the character behind them. -/
theorem next?_some {cursor after : Cursor} {token : Token} {before : List Char}
    (placed : cursor.position = Position.start.after before)
    (short : before.length + cursor.rest.length < UInt32.size - 1)
    (found : cursor.next? = some (token, after)) :
    ∃ gap c cs lexeme, Blank gap ∧ cursor.rest = gap ++ c :: cs ∧
      Lexeme.read c cs = (lexeme, after.rest) ∧
      token.kind = lexeme.kind ∧ token.text.toList = lexeme.text ∧
      token.StandsBehind (before ++ gap) ∧
      after.position = Position.start.after (before ++ gap ++ lexeme.spelling) := by
  have whole := @List.takeWhile_append_dropWhile _ isBlank cursor.rest
  simp only [next?, skipBlank, placed, ← Position.after_append] at found
  split at found
  · cases found
  · next c cs here =>
    cases found
    rw [here] at whole
    refine ⟨_, c, cs, _, blank_takeWhile cursor.rest, whole.symm, rfl, rfl,
      String.toList_ofList, ?_, rfl⟩
    have line := lineBehind_le (before ++ cursor.rest.takeWhile isBlank)
    have column := columnBehind_le (before ++ cursor.rest.takeWhile isBlank)
    have taken := (List.takeWhile_sublist (l := cursor.rest) isBlank).length_le
    rw [List.length_append] at line column
    rw [Position.start_after]
    exact ⟨UInt32.toNat_ofNat_of_lt' (show lineBehind _ < UInt32.size by omega),
      UInt32.toNat_ofNat_of_lt' (show columnBehind _ < UInt32.size by omega)⟩

theorem tokens_of_rest_nil {cursor : Cursor} (ended : cursor.rest = []) : cursor.tokens = [] := by
  rw [tokens]
  split
  · rfl
  · next found => simpa [ended] using next?_rest_length found

/-- The tokens from a cursor on partition what it has left, if its place is the one behind
`before` and neither lines nor columns outgrow their 32 bits. A literal without its closing quote
takes all that is left. -/
theorem tokens_partition (cursor : Cursor) (before : List Char)
    (placed : cursor.position = Position.start.after before)
    (short : before.length + cursor.rest.length < UInt32.size - 1) :
    Partition before cursor.rest cursor.tokens := by
  fun_induction tokens cursor generalizing before with
  | case1 cursor ended => exact .blank (blank_of_next?_none ended)
  | case2 cursor token after found ih =>
    obtain ⟨gap, c, cs, lexeme, blank, rest, read, kind, text, stands, behind⟩ :=
      next?_some placed short found
    have taken : lexeme.spelling ++ after.rest = c :: cs := by
      simpa only [read] using Lexeme.read_append c cs
    have nonempty : lexeme.spelling ≠ [] := by
      have head := Lexeme.read_head c cs
      rw [read] at head
      exact List.ne_nil_of_mem (List.mem_of_mem_head? head)
    have sizes := congrArg List.length taken
    simp only [rest, List.length_append, List.length_cons] at short sizes
    have others := ih (before ++ gap ++ lexeme.spelling) behind (by
      simp only [List.length_append]
      omega)
    rw [rest, ← taken]
    have complete (spells : token.Spells lexeme.spelling) :
        Partition before (gap ++ (lexeme.spelling ++ after.rest)) (token :: after.tokens) := by
      rw [← List.append_assoc]
      exact .token blank stands nonempty spells others
    rcases Lexeme.read_text read with ⟨other, whole⟩ | ⟨string, quote, closed | ⟨unclosed, ended⟩⟩
    · rw [← kind] at other
      exact complete (by rw [whole, ← text]; exact .plain other)
    · rw [← kind] at string
      exact complete (by rw [closed, ← text]; exact .literal string quote)
    · rw [← kind] at string
      rw [tokens_of_rest_nil ended, ended, List.append_nil, unclosed, ← text]
      exact .unclosed blank stands string quote

end Cursor

/-- The tokens of a source are a partition of it into lexemes and blanks, each at the place it
claims and each behind the one before. -/
theorem tokenize_partition (source : String) (short : source.length < UInt32.size - 1) :
    Partition [] source.toList (tokenize source) ∧ (tokenize source).Pairwise Token.Precedes := by
  have partition : Partition [] source.toList (tokenize source) :=
    (Cursor.ofSource source).tokens_partition [] rfl (by
      rw [List.length_nil, Nat.zero_add]
      exact short)
  exact ⟨partition, partition.pairwise⟩

/-- Blanks, a comment, a literal over two lines and one that is left open. -/
def scatteredSource : String :=
  "x = 'a\n b' # c\n  \"d"

theorem tokenize_partition_scattered :
    scatteredSource.length < UInt32.size - 1 ∧
    Partition [] scatteredSource.toList (tokenize scatteredSource) ∧
    (tokenize scatteredSource).Pairwise Token.Precedes := by
  have short : scatteredSource.length < UInt32.size - 1 := by decide
  exact ⟨short, tokenize_partition _ short⟩

/-- A lexeme that is a word is a keyword if it is reserved, and else a name. -/
theorem Lexeme.read_word (c : Char) (cs : List Char) :
    ((read c cs).1.kind = .keyword → isReserved (String.ofList (read c cs).1.text) = true) ∧
      ((read c cs).1.kind = .identifier →
        isReserved (String.ofList (read c cs).1.text) = false) := by
  unfold read
  split
  · simp [plain]
  split
  · simp [plain]
  split
  · simp only [plain]
    split <;> simp_all
  split
  · simp [plain]
  split
  · simp [literal]
  split
  · simp [plain]
  split <;> simp [plain]

/-- The keywords of a source are among the reserved words, and its names are not. -/
theorem isReserved_of_mem_tokenize {source : String} {token : Token}
    (member : token ∈ tokenize source) :
    (token.kind = .keyword → isReserved token.text = true) ∧
      (token.kind = .identifier → isReserved token.text = false) := by
  have words (cursor : Cursor) : ∀ token ∈ cursor.tokens,
      (token.kind = .keyword → isReserved token.text = true) ∧
        (token.kind = .identifier → isReserved token.text = false) := by
    fun_induction Cursor.tokens cursor with
    | case1 => simp
    | case2 cursor token after found ih =>
      refine List.forall_mem_cons.mpr ⟨?_, ih⟩
      simp only [Cursor.next?] at found
      split at found
      · cases found
      · next c cs _ =>
        cases found
        exact Lexeme.read_word c cs
  exact words _ token member

end SnippetCheck

import SnippetCheck.Proofs.Token.Fences
import SnippetCheck.Token.Describe

namespace SnippetCheck

section Places

/-- The line and the column of every place in a text fit into 32 bits. -/
def Addressable (text : List Char) : Prop :=
  ∀ before, before <+: text → lineBehind before < UInt32.size ∧ columnBehind before < UInt32.size

def Position.down (lines : Nat) (position : Position) : Position :=
  ⟨position.line + lines, position.column⟩

/-- The same token so many lines further down. -/
def Token.down (lines : Nat) (token : Token) : Token :=
  { token with line := token.line + lines.toUInt32 }

theorem Token.toNat_line_down {token : Token} {lines line : Nat}
    (stands : token.line = line.toUInt32) (fits : line + lines < UInt32.size) :
    (token.down lines).line.toNat = token.line.toNat + lines := by
  have moved : (token.down lines).line = (line + lines).toUInt32 := by
    rw [down, stands]
    exact (UInt32.ofNat_add _ _).symm
  have here : token.line.toNat = line := by
    rw [stands]
    exact UInt32.toNat_ofNat_of_lt' (Nat.lt_of_le_of_lt (Nat.le_add_right _ _) fits)
  rw [moved, here]
  exact UInt32.toNat_ofNat_of_lt' fits

/-- How far a text leads on does not depend on the line it begins in. -/
theorem Position.after_down (lines : Nat) (position : Position) (cs : List Char) :
    (position.down lines).after cs = (position.after cs).down lines := by
  induction cs generalizing position with
  | nil => rfl
  | cons c cs ih =>
    have next : (position.down lines).next c = (position.next c).down lines := by
      simp only [Position.next, down]
      split <;> simp [Nat.add_right_comm]
    exact (congrArg (·.after cs) next).trans (ih (position.next c))

end Places

namespace Lexeme

/-- The token of a lexeme at a place. -/
def token (position : Position) (lexeme : Lexeme) : Token :=
  ⟨lexeme.kind, String.ofList lexeme.text, position.line.toUInt32, position.column.toUInt32⟩

/-- A lexeme further down becomes the same token further down. -/
theorem token_down (lines : Nat) (position : Position) (lexeme : Lexeme) :
    lexeme.token (position.down lines) = (lexeme.token position).down lines := by
  simp only [token, Token.down, Position.down, Token.mk.injEq, true_and, and_true]
  exact UInt32.ofNat_add _ _

end Lexeme

namespace Cursor

open Lexeme

variable {gap cs rest text : List Char} {c : Char} {lexeme : Lexeme} {lexemes : List Lexeme}

theorem tokens_of_next?_none {cursor : Cursor} (ended : cursor.next? = none) :
    cursor.tokens = [] := by
  rw [tokens]
  split
  · rfl
  · next found => simp [ended] at found

theorem tokens_of_next?_some {cursor after : Cursor} {token : Token}
    (found : cursor.next? = some (token, after)) : cursor.tokens = token :: after.tokens := by
  rw [tokens]
  split
  · next ended => simp [found] at ended
  · next found' =>
    cases found.symm.trans found'
    rfl

theorem tokens_of_blank (blank : Blank gap) (position : Position) :
    (⟨gap, position⟩ : Cursor).tokens = [] := by
  have skipped := blank.dropWhile_append []
  rw [List.append_nil, List.dropWhile_nil] at skipped
  refine tokens_of_next?_none ?_
  simp only [next?, skipBlank, skipped]

/-- The token of a lexeme stands behind the blanks before it, and what follows is cut from where
the lexeme ends. -/
theorem tokens_of_begins (blank : Blank gap) (solid : ¬Blank [c]) (begins : Begins (c :: cs) lexeme)
    (taken : lexeme.spelling ++ rest = c :: cs) (position : Position) :
    (⟨gap ++ c :: cs, position⟩ : Cursor).tokens =
      lexeme.token (position.after gap) ::
        (⟨rest, position.after (gap ++ lexeme.spelling)⟩ : Cursor).tokens := by
  have isRead : (read c cs).1 = lexeme := begins_iff.mp begins
  have whole := read_append c cs
  rw [isRead, ← taken, List.append_cancel_left_eq] at whole
  refine tokens_of_next?_some ?_
  simp only [next?, skipBlank, dropWhile_of_solid blank solid, takeWhile_of_solid blank solid,
    isRead, whole, Position.after_append]
  rfl

/-- A text further down has the same tokens further down. -/
theorem tokens_down (lexes : Lexes text lexemes) (lines : Nat) (position : Position) :
    (⟨text, position.down lines⟩ : Cursor).tokens =
      (⟨text, position⟩ : Cursor).tokens.map (Token.down lines) := by
  induction lexes generalizing position with
  | blank blank => simp only [tokens_of_blank blank, List.map_nil]
  | lexeme blank solid begins taken _ ih =>
    rw [tokens_of_begins blank solid begins taken, tokens_of_begins blank solid begins taken,
      Position.after_down, Position.after_down, token_down, ih, List.map_cons]

/-- Where a line ends, nothing is left of the text before it: no lexeme that is closed goes on. -/
theorem tokens_append_feed (lexes : Lexes text lexemes)
    (closed : ∀ lexeme ∈ lexemes, lexeme.IsClosed) (below : List Char) (position : Position) :
    (⟨text ++ '\n' :: below, position⟩ : Cursor).tokens =
      (⟨text, position⟩ : Cursor).tokens ++
        (plain .newline ['\n']).token (position.after text) ::
          (⟨below, position.after (text ++ ['\n'])⟩ : Cursor).tokens := by
  induction lexes generalizing position with
  | blank blank =>
    have solid : ¬Blank ['\n'] := fun blank => (blank '\n' List.mem_cons_self).1 rfl
    rw [tokens_of_blank blank]
    exact tokens_of_begins blank solid (.munch .newline) rfl position
  | @lexeme gap cs rest c lexeme lexemes blank solid begins taken _ ih =>
    obtain ⟨this, others⟩ := List.forall_mem_cons.mp closed
    have begins' : Begins (c :: (cs ++ '\n' :: below)) lexeme :=
      begins.fenced this isFence_feed (fun _ => rfl) below
    have taken' : lexeme.spelling ++ (rest ++ '\n' :: below) = c :: (cs ++ '\n' :: below) := by
      rw [← List.append_assoc, taken, List.cons_append]
    rw [List.append_assoc, List.cons_append, tokens_of_begins blank solid begins' taken',
      tokens_of_begins blank solid begins taken, ih others, ← taken]
    simp only [Position.after_append, List.append_assoc, List.cons_append]

/-- Every token stands at the place of a character of the text. -/
theorem tokens_placed (lexes : Lexes text lexemes) (position : Position) :
    ∀ token ∈ (⟨text, position⟩ : Cursor).tokens, ∃ before, before <+: text ∧
      token.line = (position.after before).line.toUInt32 := by
  induction lexes generalizing position with
  | blank blank => simp [tokens_of_blank blank]
  | @lexeme gap cs rest c lexeme lexemes blank solid begins taken _ ih =>
    rw [tokens_of_begins blank solid begins taken]
    rintro token (_ | ⟨_, member⟩)
    · exact ⟨gap, List.prefix_append _ _, rfl⟩
    · obtain ⟨before, ⟨after, rfl⟩, line⟩ := ih _ token member
      refine ⟨gap ++ lexeme.spelling ++ before, ⟨after, ?_⟩, ?_⟩
      · rw [← taken, List.append_assoc, List.append_assoc]
      · rw [Position.after_append, line]

/-- A token stands behind all of the text that the tokens before it stand behind. -/
theorem tokens_ascend (lexes : Lexes text lexemes) (position : Position) :
    (⟨text, position⟩ : Cursor).tokens.Pairwise fun first second =>
      ∃ before behind, before <+: behind ∧ behind <+: text ∧
        first.line = (position.after before).line.toUInt32 ∧
        second.line = (position.after behind).line.toUInt32 := by
  induction lexes generalizing position with
  | blank blank => simp [tokens_of_blank blank]
  | @lexeme gap cs rest c lexeme lexemes blank solid begins taken lexes ih =>
    have whole : gap ++ c :: cs = gap ++ lexeme.spelling ++ rest := by
      rw [← taken, List.append_assoc]
    rw [tokens_of_begins blank solid begins taken]
    refine .cons (fun second member => ?_) ((ih _).imp ?_)
    · obtain ⟨more, place, line⟩ := tokens_placed lexes _ second member
      refine ⟨gap, gap ++ lexeme.spelling ++ more, ?_, ?_, rfl, ?_⟩
      · exact (List.prefix_append _ _).trans (List.prefix_append _ _)
      · exact whole ▸ (List.prefix_append_right_inj _).mpr place
      · rw [line, Position.after_append _ (gap ++ lexeme.spelling)]
    · rintro first second ⟨before, behind, inside, place, line, line'⟩
      refine ⟨gap ++ lexeme.spelling ++ before, gap ++ lexeme.spelling ++ behind, ?_, ?_, ?_, ?_⟩
      · exact (List.prefix_append_right_inj _).mpr inside
      · exact whole ▸ (List.prefix_append_right_inj _).mpr place
      · rw [line, Position.after_append _ (gap ++ lexeme.spelling)]
      · rw [line', Position.after_append _ (gap ++ lexeme.spelling)]

/-- No token is empty. -/
theorem length_tokens_le (cursor : Cursor) : cursor.tokens.length ≤ cursor.rest.length := by
  fun_induction tokens cursor with
  | case1 => exact Nat.zero_le _
  | case2 cursor token after found ih => exact Nat.lt_of_le_of_lt ih (next?_rest_length found)

end Cursor

/-- As long as there are few enough tokens, they are counted as they are. -/
theorem TokenReport.toNat_count {tokens : List Token} (few : tokens.length < UInt64.size)
    (kind : TokenKind) :
    ((TokenReport.ofTokens tokens).counts.count kind).toNat = tokens.countP (·.kind = kind) := by
  have bound : tokens.countP (·.kind = kind) < UInt64.size :=
    Nat.lt_of_le_of_lt List.countP_le_length few
  simp only [ofTokens, KindCounts.ofTokens, KindCounts.count]
  split
  · next none => rw [none]; rfl
  · exact UInt64.toNat_ofNat_of_lt' bound

section Sizes

theorem Addressable.of_prefix {text before : List Char} (addressable : Addressable text)
    (begins : before <+: text) : Addressable before :=
  fun _ begins' => addressable _ (begins'.trans begins)

/-- Every line before the last takes one more character than its columns, the feed, and they are
fewer than 32 bits can count. -/
theorem Addressable.length_lt_places {text : List Char} (addressable : Addressable text) :
    text.length < (lineBehind text - 1) * (UInt32.size - 1) + columnBehind text := by
  induction text using List.reverseRecOn with
  | nil => decide
  | append_singleton before c ih =>
    have within := addressable.of_prefix (List.prefix_append before [c])
    have bound := ih within
    have narrow := (within before List.prefix_rfl).2
    rw [List.length_append, List.length_singleton]
    by_cases feed : c = '\n'
    · subst feed
      rw [lineBehind_feed, columnBehind_feed]
      simp only [UInt32.size, lineBehind] at *
      omega
    · have noFeed : '\n' ∉ [c] := by simpa using Ne.symm feed
      have sameLine := List.count_eq_zero_of_not_mem noFeed
      rw [lineBehind_append, sameLine, columnBehind_append_of_notMem noFeed, List.length_singleton]
      simp only [Nat.add_zero]
      omega

theorem Addressable.length_lt {text : List Char} (addressable : Addressable text) :
    text.length < UInt64.size := by
  have places := addressable.length_lt_places
  obtain ⟨lines, columns⟩ := addressable text List.prefix_rfl
  simp only [UInt32.size, UInt64.size] at *
  omega

end Sizes

theorem toList_append_line (a b : String) :
    (a ++ "\n" ++ b).toList = a.toList ++ '\n' :: b.toList := by
  simp [String.toList_append]

/-- The newline takes the place behind the text before it, and below it lines are counted on. -/
theorem tokenize_append_feed {a : String} (terminated : Terminated a) (b : String) :
    tokenize (a ++ "\n" ++ b) = tokenize a ++
      (Lexeme.plain .newline ['\n']).token (Position.start.after a.toList) ::
        (tokenize b).map (Token.down (1 + a.toList.count '\n')) := by
  have below : Position.start.after (a.toList ++ ['\n']) =
      Position.start.down (1 + a.toList.count '\n') := by
    rw [Position.start_after, lineBehind_feed, columnBehind_feed, lineBehind, Nat.add_comm]
    rfl
  rw [tokenize, Cursor.ofSource, toList_append_line,
    Cursor.tokens_append_feed (Lexeme.lexes_lexemes a.toList) terminated, below,
    Cursor.tokens_down (Lexeme.lexes_lexemes b.toList)]
  rfl

/-- A text whose literals are all closed can be cut off at the end of a line: its tokens are those
it has alone, then a newline, and then those of what follows, which stand so many lines further
down. The counts of the kinds add up. -/
theorem tokenize_append_line (a b : String) (terminated : Terminated a)
    (addressable : Addressable (a ++ "\n" ++ b).toList) :
    ∃ feed : Token, feed.kind = .newline ∧ feed.text = "\n" ∧ feed.StandsBehind a.toList ∧
      tokenize (a ++ "\n" ++ b) =
        tokenize a ++ feed :: (tokenize b).map (Token.down (1 + a.toList.count '\n')) ∧
      (∀ token ∈ tokenize b, (token.down (1 + a.toList.count '\n')).line.toNat =
        token.line.toNat + (1 + a.toList.count '\n')) ∧
      ∀ kind, ((TokenReport.ofTokens (tokenize (a ++ "\n" ++ b))).counts.count kind).toNat =
        ((TokenReport.ofTokens (tokenize a)).counts.count kind).toNat +
          ((TokenReport.ofTokens (tokenize b)).counts.count kind).toNat +
            if kind = .newline then 1 else 0 := by
  have split := tokenize_append_feed terminated b
  refine ⟨_, rfl, rfl, ?_, split, fun token member => ?_, fun kind => ?_⟩
  · rw [toList_append_line] at addressable
    obtain ⟨line, column⟩ := addressable a.toList (List.prefix_append _ _)
    rw [Position.start_after]
    exact ⟨UInt32.toNat_ofNat_of_lt' line, UInt32.toNat_ofNat_of_lt' column⟩
  · obtain ⟨before, begins, line⟩ :=
      Cursor.tokens_placed (Lexeme.lexes_lexemes b.toList) _ token member
    rw [Position.start_after] at line
    rw [toList_append_line] at addressable
    have place : a.toList ++ '\n' :: before <+: a.toList ++ '\n' :: b.toList :=
      (List.prefix_append_right_inj _).mpr (List.cons_prefix_cons.mpr ⟨rfl, begins⟩)
    have fits := (addressable _ place).1
    refine Token.toNat_line_down line ?_
    simp only [lineBehind, List.count_append, List.count_cons_self] at fits ⊢
    omega
  · have few : (tokenize (a ++ "\n" ++ b)).length < UInt64.size :=
      Nat.lt_of_le_of_lt (Cursor.length_tokens_le _) addressable.length_lt
    have lengths := congrArg List.length split
    simp only [List.length_append, List.length_cons, List.length_map] at lengths
    rw [TokenReport.toNat_count few, TokenReport.toNat_count (by omega),
      TokenReport.toNat_count (by omega), split, List.countP_append, List.countP_cons,
      List.countP_map, ← Nat.add_assoc]
    simp [Function.comp_def, Token.down, Lexeme.token, Lexeme.plain, eq_comm]

/-- Neither lines nor columns of a short text outgrow their 32 bits. -/
theorem addressable_of_length_lt {text : List Char} (short : text.length < UInt32.size - 1) :
    Addressable text := by
  intro before begins
  have length := begins.length_le
  have line := lineBehind_le before
  have column := columnBehind_le before
  omega

/-- A literal over two lines, a comment that the line ends, and a line with one that stays open. -/
theorem tokenize_append_line_open :
    Terminated "x = 'a\n b' # c" ∧ Addressable ("x = 'a\n b' # c" ++ "\n" ++ "  \"d").toList ∧
    ∃ feed : Token, feed.kind = .newline ∧ feed.text = "\n" ∧
      feed.StandsBehind "x = 'a\n b' # c".toList ∧
      tokenize ("x = 'a\n b' # c" ++ "\n" ++ "  \"d") =
        tokenize "x = 'a\n b' # c" ++ feed :: (tokenize "  \"d").map (Token.down 2) := by
  have terminated : Terminated "x = 'a\n b' # c" := by decide +kernel
  have addressable : Addressable ("x = 'a\n b' # c" ++ "\n" ++ "  \"d").toList :=
    addressable_of_length_lt (by decide +kernel)
  obtain ⟨feed, kind, text, stands, split, -⟩ := tokenize_append_line _ _ terminated addressable
  have feeds : 1 + "x = 'a\n b' # c".toList.count '\n' = 2 := by decide +kernel
  rw [feeds] at split
  exact ⟨terminated, addressable, feed, kind, text, stands, split⟩

end SnippetCheck

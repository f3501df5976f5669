import Mathlib.Data.List.Induction
import SnippetCheck.Token.Lexer

namespace SnippetCheck

/-- The line on which the character behind a text stands, counted from 1. -/
def lineBehind (before : List Char) : Nat :=
  1 + before.count '\n'

/-- The column of the character behind a text: 1 plus the characters since the last line feed,
or since the start of the text if there is none. -/
def columnBehind (before : List Char) : Nat :=
  1 + (before.reverse.takeWhile (· ≠ '\n')).length

theorem lineBehind_append (before more : List Char) :
    lineBehind (before ++ more) = lineBehind before + more.count '\n' := by
  simp only [lineBehind, List.count_append]
  omega

theorem columnBehind_append_of_notMem {before more : List Char} (within : '\n' ∉ more) :
    columnBehind (before ++ more) = columnBehind before + more.length := by
  have all : ∀ c ∈ more.reverse, decide (c ≠ '\n') = true := by
    intro c member
    rw [decide_eq_true_eq]
    rintro rfl
    exact within (List.mem_reverse.mp member)
  rw [columnBehind, columnBehind, List.reverse_append, List.takeWhile_append_of_pos all,
    List.length_append, List.length_reverse]
  omega

theorem lineBehind_feed (before : List Char) :
    lineBehind (before ++ ['\n']) = lineBehind before + 1 := by
  rw [lineBehind_append, List.count_singleton_self]

theorem columnBehind_feed (before : List Char) : columnBehind (before ++ ['\n']) = 1 := by
  simp [columnBehind]

theorem lineBehind_le (before : List Char) : lineBehind before ≤ before.length + 1 := by
  have bound := @List.count_le_length Char _ '\n' before
  rw [lineBehind]
  omega

theorem columnBehind_le (before : List Char) : columnBehind before ≤ before.length + 1 := by
  have bound := (List.takeWhile_sublist (l := before.reverse) (· ≠ '\n')).length_le
  rw [List.length_reverse] at bound
  rw [columnBehind]
  omega

/-- Counting character by character arrives where the whole text tells the place. -/
theorem Position.start_after (before : List Char) :
    Position.start.after before = ⟨lineBehind before, columnBehind before⟩ := by
  induction before using List.reverseRecOn with
  | nil => rfl
  | append_singleton before c ih =>
    rw [Position.after_append, ih]
    by_cases feed : c = '\n'
    · subst feed
      rw [lineBehind_feed, columnBehind_feed]
      rfl
    · have within : '\n' ∉ [c] := by simpa using Ne.symm feed
      rw [lineBehind_append, columnBehind_append_of_notMem within]
      simp [Position.after, Position.next, feed]

/-- A token stands behind a text if its line and column are those of the next character. -/
structure Token.StandsBehind (token : Token) (before : List Char) : Prop where
  line : token.line.toNat = lineBehind before
  column : token.column.toNat = columnBehind before

/-- One token comes before another in the text: on an earlier line, or further left. -/
def Token.Precedes (a b : Token) : Prop :=
  a.line < b.line ∨ a.line = b.line ∧ a.column < b.column

theorem Token.StandsBehind.precedes {a b : Token} {before more : List Char}
    (first : a.StandsBehind before) (second : b.StandsBehind (before ++ more))
    (apart : more ≠ []) : a.Precedes b := by
  have lines := second.line
  rw [lineBehind_append, ← first.line] at lines
  by_cases feed : '\n' ∈ more
  · have positive := List.count_pos_iff.mpr feed
    exact .inl (UInt32.lt_iff_toNat_lt.mpr (by omega))
  · have columns := second.column
    rw [columnBehind_append_of_notMem feed, ← first.column] at columns
    have positive := List.length_pos_iff.mpr apart
    rw [List.count_eq_zero_of_not_mem feed] at lines
    exact .inr ⟨UInt32.toNat_inj.mp lines.symm, UInt32.lt_iff_toNat_lt.mpr (by omega)⟩

end SnippetCheck

import SnippetCheck.Proofs.Token.Fences

namespace SnippetCheck

/-- A text without line feeds. -/
def OneLine (text : String) : Prop :=
  '\n' ∉ text.toList

instance (text : String) : Decidable (OneLine text) :=
  inferInstanceAs (Decidable (¬_))

/-- The lines of a text, as the line feeds in it separate them. -/
def linesOf (text : String) : List String :=
  (text.toList.splitOn '\n').map String.ofList

section Texts

@[simp]
theorem oneLine_append {a b : String} : OneLine (a ++ b) ↔ OneLine a ∧ OneLine b := by
  simp [OneLine, not_or]

@[simp]
theorem oneLine_toString {text : String} : OneLine (toString text) ↔ OneLine text :=
  Iff.rfl

/-- Numbers have no line feed in them. -/
@[simp]
theorem oneLine_repr (number : Nat) : OneLine number.repr := by
  rw [OneLine, Nat.repr_eq_ofList_toDigits, String.toList_ofList]
  intro member
  exact absurd (Nat.isDigit_of_mem_toDigits (by decide) (by decide) member) (by decide)

/-- Texts are joined to one line if each of them is one. -/
theorem oneLine_intercalate {separator : String} (between : OneLine separator)
    {texts : List String} :
    OneLine (separator.intercalate texts) ↔ ∀ text ∈ texts, OneLine text := by
  induction texts with
  | nil => simp [OneLine]
  | cons first rest ih =>
    cases rest with
    | nil => simp [String.intercalate_singleton]
    | cons next others =>
      rw [String.intercalate_cons_cons, oneLine_append, oneLine_append, ih]
      simp only [between, and_true, List.forall_mem_cons]

end Texts

section Lines

variable {text : String} {texts : List String}

/-- A line feed ends the lines of what stands before it. -/
theorem linesOf_append_feed (a b : String) : linesOf (a ++ "\n" ++ b) = linesOf a ++ linesOf b := by
  have feed : (a ++ "\n" ++ b).toList = a.toList ++ '\n' :: b.toList := by simp
  rw [linesOf, feed, List.splitOn_append_cons_self, List.map_append]
  rfl

/-- Texts that are put below one another have their lines below one another. -/
theorem linesOf_intercalate (some : texts ≠ []) :
    linesOf ("\n".intercalate texts) = texts.flatMap linesOf := by
  induction texts with
  | nil => exact absurd rfl some
  | cons first rest ih =>
    cases rest with
    | nil => simp
    | cons next others =>
      rw [String.intercalate_cons_cons, linesOf_append_feed, ih (List.cons_ne_nil _ _)]
      rfl

theorem linesOf_of_oneLine (oneLine : OneLine text) : linesOf text = [text] := by
  rw [linesOf, List.splitOn_eq_singleton oneLine, List.map_singleton, String.ofList_toList]

theorem linesOf_ne_nil (text : String) : linesOf text ≠ [] := by
  simp [linesOf, List.splitOn_ne_nil]

theorem one_lt_length_linesOf (spans : ¬OneLine text) : 1 < (linesOf text).length := by
  obtain ⟨before, after, same⟩ := List.append_of_mem (not_not.mp spans)
  obtain rfl : text = String.ofList before ++ "\n" ++ String.ofList after :=
    String.toList_inj.mp (by simpa using same)
  rw [linesOf_append_feed, List.length_append]
  have first := List.length_pos_of_ne_nil (linesOf_ne_nil (String.ofList before))
  have second := List.length_pos_of_ne_nil (linesOf_ne_nil (String.ofList after))
  omega

/-- A text is its only line exactly if it holds no line feed. -/
theorem linesOf_eq_singleton_iff : linesOf text = [text] ↔ OneLine text := by
  refine ⟨fun single => ?_, linesOf_of_oneLine⟩
  by_contra spans
  have more := one_lt_length_linesOf spans
  rw [single] at more
  exact absurd more (Nat.lt_irrefl 1)

theorem flatMap_linesOf (each : ∀ text ∈ texts, OneLine text) : texts.flatMap linesOf = texts := by
  rw [List.flatMap_congr fun text member => linesOf_of_oneLine (each text member)]
  exact List.flatMap_singleton' texts

theorem length_flatMap_linesOf (texts : List String) :
    texts.length ≤ (texts.flatMap linesOf).length ∧
      ((texts.flatMap linesOf).length = texts.length ↔ ∀ text ∈ texts, OneLine text) := by
  induction texts with
  | nil => simp
  | cons first rest ih =>
    obtain ⟨bound, exact⟩ := ih
    rw [List.flatMap_cons, List.length_append, List.length_cons, List.forall_mem_cons, ← exact]
    by_cases oneLine : OneLine first
    · rw [linesOf_of_oneLine oneLine, List.length_singleton]
      simp only [oneLine, true_and]
      omega
    · have more := one_lt_length_linesOf oneLine
      simp only [oneLine, false_and, iff_false]
      omega

end Lines

end SnippetCheck

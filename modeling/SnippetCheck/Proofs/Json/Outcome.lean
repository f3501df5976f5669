import SnippetCheck.Json.Record

namespace SnippetCheck.Json

/-- Characters that may stand between lexemes. -/
def Blank (gap : List Char) : Prop :=
  ∀ c ∈ gap, Reader.isBlank c = true

namespace Reader

variable {α β : Type} {text rest gap : List Char} {c : Char}

/-- What a reader makes of a text: a value and what is left of the text, or a fault. -/
def outcome (reader : Reader α) (text : List Char) : Except Fault (α × List Char) :=
  (reader text).map fun taken => (taken.value, taken.rest)

@[simp]
theorem outcome_pure (a : α) : (pure a : Reader α).outcome text = .ok (a, text) :=
  rfl

/-- Two readers in a row, in terms of what the first makes of the text. -/
theorem outcome_bind (reader : Reader α) (next : α → Reader β) :
    (reader >>= next).outcome text =
      (reader.outcome text).bind fun first => (next first.1).outcome first.2 := by
  simp only [outcome, bind]
  cases reader text with
  | error fault => rfl
  | ok first =>
    dsimp only [Except.map, Except.bind]
    cases next first.value first.rest <;> rfl

theorem outcome_bind_ok {reader : Reader α} {a : α} {next : α → Reader β}
    (first : reader.outcome text = .ok (a, rest)) :
    (reader >>= next).outcome text = (next a).outcome rest := by
  rw [outcome_bind, first]
  rfl

@[simp]
theorem outcome_pure_bind {a : α} {next : α → Reader β} :
    (pure a >>= next).outcome text = (next a).outcome text :=
  outcome_bind_ok rfl

theorem outcome_bind_error {reader : Reader α} {fault : Fault} {next : α → Reader β}
    (first : reader.outcome text = .error fault) :
    (reader >>= next).outcome text = .error fault := by
  rw [outcome_bind, first]
  rfl

section Characters

@[simp]
theorem outcome_peek_bind {next : Option Char → Reader β} :
    (peek >>= next).outcome text = (next text.head?).outcome text :=
  outcome_bind_ok rfl

@[simp]
theorem outcome_skip_bind {next : Unit → Reader β} :
    (skip >>= next).outcome (c :: rest) = (next ()).outcome rest :=
  outcome_bind_ok rfl

/-- A run of characters with a property is taken whole if it ends there. -/
theorem outcome_takeWhile_bind {p : Char → Bool} {here : List Char}
    {next : List Char → Reader β} (all : ∀ c ∈ here, p c = true)
    (ends : ∀ c ∈ rest.head?, p c = false) :
    (takeWhile p >>= next).outcome (here ++ rest) = (next here).outcome rest := by
  have taken : (here ++ rest).takeWhile p = here := by
    rw [List.takeWhile_append_of_pos all]
    cases rest with
    | nil => simp
    | cons c rest => simp [ends c rfl]
  have dropped : (here ++ rest).dropWhile p = rest := by
    rw [List.dropWhile_append_of_pos all]
    cases rest with
    | nil => rfl
    | cons c rest => simp [ends c rfl]
  have first : (takeWhile p).outcome (here ++ rest) = .ok (here, rest) := by
    change Except.ok ((here ++ rest).takeWhile p, (here ++ rest).dropWhile p) = _
    rw [taken, dropped]
  exact outcome_bind_ok first

end Characters

section Blanks

variable (blank : Blank gap)

include blank

theorem outcome_peekVisible_bind {next : Option Char → Reader β} (visible : isBlank c = false) :
    (peekVisible >>= next).outcome (gap ++ c :: rest) = (next (some c)).outcome (c :: rest) := by
  have first : peekVisible.outcome (gap ++ c :: rest) = .ok (some c, c :: rest) := by
    rw [peekVisible, outcome_takeWhile_bind blank (by simpa using visible)]
    rfl
  exact outcome_bind_ok first

theorem outcome_peekValue_bind {next : Char → Reader β} (visible : isBlank c = false) :
    (peekValue >>= next).outcome (gap ++ c :: rest) = (next c).outcome (c :: rest) := by
  have first : peekValue.outcome (gap ++ c :: rest) = .ok (c, c :: rest) := by
    rw [peekValue, outcome_peekVisible_bind blank visible]
    rfl
  exact outcome_bind_ok first

theorem firstVisible_eq (c : Char) (rest : List Char) (visible : isBlank c = false) :
    ∃ suffix, firstVisible (gap ++ c :: rest) = some ⟨c, rest, suffix⟩ := by
  induction gap with
  | nil => exact ⟨List.suffix_cons c rest, by simp [firstVisible, visible]⟩
  | cons b gap ih =>
    obtain ⟨suffix, found⟩ := ih fun c inside => blank c (List.mem_cons_of_mem b inside)
    have skipped := blank b List.mem_cons_self
    exact ⟨suffix.trans (List.suffix_cons _ _), by
      simp only [List.cons_append, firstVisible, skipped, if_true, found, Option.map_some,
        Taken.extend]⟩

end Blanks

/-- Nothing may stand behind a whole text. -/
theorem run_eq_of_outcome {reader : Reader α} {text : String} {result : Except Fault α}
    (whole : reader.outcome text.toList = result.map (·, [])) : reader.run text = result := by
  have same : ((reader >>= fun a => finish >>= fun _ => pure a).outcome text.toList).map Prod.fst =
      result := by
    cases result with
    | error fault => rw [outcome_bind_error whole]; rfl
    | ok a => rw [outcome_bind_ok whole]; rfl
  rw [← same, run, outcome]
  cases (reader >>= fun a => finish >>= fun _ => pure a) text.toList <;> rfl

end Reader
end SnippetCheck.Json

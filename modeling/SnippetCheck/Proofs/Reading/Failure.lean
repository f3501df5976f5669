import SnippetCheck.Proofs.Reading.Shows

namespace SnippetCheck.Grammar

open Reader

/-- Whatever fails has a fault to show for it. -/
def Admits (succeeds : Bool) (faults : List Diagnostic) : Prop :=
  succeeds = false → faults ≠ []

theorem admits_composes : Composes Admits where
  silent := nofun
  single _ _ := List.cons_ne_nil _ _
  append _ later failed := List.append_ne_nil_of_right_ne_nil _ (later failed)

theorem admits_forgives : Forgives Admits :=
  fun _ _ => nofun

theorem admits_nestingTooDeep (line : UInt32) : Admits false [.nestingTooDeep line] :=
  fun _ => List.cons_ne_nil _ _

section Loud

variable {α : Type} {reader : Reader α}

/-- A reading that fails says so. -/
def Reader.Loud (reader : Reader α) : Prop :=
  ∀ tokens, (reader tokens).result = none → (reader tokens).faults ≠ []

theorem Reader.Loud.shows (loud : reader.Loud) (room : Nat) : reader.Shows Admits room := by
  intro tokens _ failed
  exact loud tokens (by simpa using failed)

theorem Reader.loud_of_shows (shown : ∀ room, reader.Shows Admits room) : reader.Loud :=
  fun tokens failed => (shown _ tokens (Nat.lt_succ_self _)).of_none failed rfl

/-- An attempt does not fail, so it need not say so. -/
theorem loud_attempt (reader : Reader α) : reader.attempt.Loud :=
  fun _ failed => nomatch failed

theorem loud_commaSeparated (loud : reader.Loud) : (commaSeparated reader).Loud :=
  loud_of_shows fun room => admits_composes.shows_commaSeparated (loud.shows room)

end Loud

/-- No expression is given up without a fault to show for it. -/
theorem expression_loud (lastLine : UInt32) (free : Nat) : Loud (expression lastLine free) :=
  loud_of_shows (admits_composes.shows_expression admits_nestingTooDeep lastLine free)

/-- No statement is given up without a fault to show for it. -/
theorem statement_loud (lastLine : UInt32) (free : Nat) : Loud (statement lastLine free) := by
  refine loud_of_shows fun room => ?_
  induction free generalizing room with
  | zero => exact fun _ _ => admits_nestingTooDeep _
  | succ free ih =>
    have expressions := (expression_loud lastLine free).shows (room + 1)
    exact (admits_composes.shows_statementOf admits_forgives (ih room) expressions).mono
      (Nat.le_succ room)

/-- Reading is given up at its first fault. -/
structure GivesUp (succeeds : Bool) (faults : List Diagnostic) : Prop where
  single : faults.length ≤ 1
  silent : succeeds = true → faults = []

theorem givesUp_composes : Composes GivesUp where
  silent := ⟨Nat.zero_le 1, fun _ => rfl⟩
  single _ := ⟨Nat.le_refl 1, nofun⟩
  append first second := by
    rw [first.silent rfl, List.nil_append]
    exact second

theorem givesUp_nestingTooDeep (line : UInt32) : GivesUp false [.nestingTooDeep line] :=
  ⟨Nat.le_refl 1, nofun⟩

/-- The reader gives up at its first fault, wherever it begins. -/
def Reader.Strict {α : Type} (reader : Reader α) : Prop :=
  ∀ tokens, (reader tokens).Shows GivesUp

theorem Reader.strict_of_shows {α : Type} {reader : Reader α}
    (shown : ∀ room, reader.Shows GivesUp room) : reader.Strict :=
  fun tokens => shown _ tokens (Nat.lt_succ_self _)

/-- A token that is missed is one fault. -/
theorem strict_expect (expected : String) (condition : Token → Bool) :
    (expect expected condition).Strict :=
  strict_of_shows fun _ => givesUp_composes.shows_expect expected condition

/-- An expression has one fault at most, the one at which it is given up. -/
theorem expression_strict (lastLine : UInt32) (free : Nat) : Strict (expression lastLine free) :=
  strict_of_shows (givesUp_composes.shows_expression givesUp_nestingTooDeep lastLine free)

end SnippetCheck.Grammar

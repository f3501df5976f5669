import SnippetCheck.Proofs.Reading.Loops

namespace SnippetCheck.Grammar

open Reader

/-- A property of what a reading has to show, whether it succeeds and its faults, that readings in
a row share with their parts. The bound on nesting is the one fault that it need not allow. -/
structure Composes (P : Bool → List Diagnostic → Prop) : Prop where
  silent : P true []
  single {fault : Diagnostic} : (∀ line, fault ≠ .nestingTooDeep line) → P false [fault]
  append {succeeds : Bool} {before after : List Diagnostic} :
    P true before → P succeeds after → P succeeds (before ++ after)

/-- A property that stays when reading goes on after a failure. -/
def Forgives (P : Bool → List Diagnostic → Prop) : Prop :=
  ∀ faults, P false faults → P true faults

variable {P : Bool → List Diagnostic → Prop} {room : Nat} {tokens rest : List Token} {token : Token}

section Combinators

variable {α β : Type}

def Outcome.Shows (P : Bool → List Diagnostic → Prop) (outcome : Outcome α tokens) : Prop :=
  P outcome.result.isSome outcome.faults

/-- The property is shown wherever fewer tokens than `room` are left. -/
def Reader.Shows (P : Bool → List Diagnostic → Prop) (room : Nat) (reader : Reader α) : Prop :=
  ∀ tokens, tokens.length < room → (reader tokens).Shows P

theorem Outcome.Shows.of_none {outcome : Outcome α tokens} (shown : outcome.Shows P)
    (failed : outcome.result = none) : P false outcome.faults := by
  rwa [Shows, failed] at shown

theorem Outcome.Shows.of_some {outcome : Outcome α tokens} {a : α} (shown : outcome.Shows P)
    (found : outcome.result = some a) : P true outcome.faults := by
  rwa [Shows, found] at shown

/-- A failure that is forgiven counts as a success with faults. -/
theorem Outcome.Shows.forgiven {outcome : Outcome α tokens} (shown : outcome.Shows P)
    (forgives : Forgives P) : P true outcome.faults := by
  cases result : outcome.result with
  | none => exact forgives _ (shown.of_none result)
  | some a => exact shown.of_some result

/-- What is shown by all readings in some room is shown by those in less. -/
theorem Reader.Shows.mono {reader : Reader α} {room' : Nat} (shown : reader.Shows P room)
    (less : room' ≤ room) : reader.Shows P room' :=
  fun tokens fits => shown tokens (Nat.lt_of_lt_of_le fits less)

namespace Composes

/-- Two readings one behind the other show what each shows, as the property composes. -/
theorem bind (composes : Composes P) {reader : Reader α} {next : α → Reader β}
    (first : (reader tokens).Shows P)
    (second : ∀ a, (reader tokens).result = some a → (next a (reader tokens).rest).Shows P) :
    ((reader >>= next) tokens).Shows P := by
  cases result : (reader tokens).result with
  | none =>
    obtain ⟨sameResult, -, sameFaults⟩ := bind_of_none next result
    rw [Outcome.Shows, sameResult, sameFaults]
    exact first.of_none result
  | some a =>
    obtain ⟨sameResult, -, sameFaults⟩ := bind_of_some next result
    rw [Outcome.Shows, sameResult, sameFaults]
    exact composes.append (first.of_some result) (second a result)

theorem shows_bind (composes : Composes P) {reader : Reader α} {next : α → Reader β}
    (first : reader.Shows P room) (second : ∀ a, (next a).Shows P room) :
    (reader >>= next).Shows P room :=
  fun tokens fits => composes.bind (first tokens fits) fun a _ =>
    second a _ (Nat.lt_of_le_of_lt (reader tokens).suffix.length_le fits)

theorem shows_pure (composes : Composes P) (a : α) : (pure a : Reader α).Shows P room :=
  fun _ _ => composes.silent

theorem shows_next (composes : Composes P) (condition : Token → Bool) :
    (next condition).Shows P room :=
  fun _ _ => composes.silent

theorem shows_skip (composes : Composes P) : skip.Shows P room :=
  fun _ _ => composes.silent

/-- A token that is passed over makes room for what comes behind it. -/
theorem behind_skip {next : Unit → Reader β} (shown : (next ()).Shows P room)
    (fits : rest.length < room) : ((skip >>= next) (token :: rest)).Shows P :=
  shown rest fits

theorem shows_accept (composes : Composes P) (condition : Token → Bool) :
    (accept condition).Shows P room := by
  intro tokens _
  cases tokens with
  | nil => exact composes.silent
  | cons token rest =>
    rw [accept]
    split <;> exact composes.silent

/-- A token that is missed is the one fault of its reading. -/
theorem shows_expect (composes : Composes P) (expected : String) (condition : Token → Bool) :
    (expect expected condition).Shows P room := by
  intro tokens _
  cases tokens with
  | nil => exact composes.single (by simp)
  | cons token rest =>
    rw [expect]
    split
    · exact composes.silent
    · exact composes.single (by simp)

/-- A property that forgives is shown by the attempt as by the reading. -/
theorem shows_attempt {reader : Reader α} (forgives : Forgives P)
    (shown : reader.Shows P room) : reader.attempt.Shows P room :=
  fun tokens fits => (shown tokens fits).forgiven forgives

theorem shows_behindCommas (composes : Composes P) {item : Reader α}
    (items : item.Shows P room) : Reader.Shows P room (behindCommas item) := by
  intro tokens fits
  fun_induction behindCommas item tokens with
  | case1 => exact composes.silent
  | case2 token rest comma first suffix failed =>
    exact (items rest (Nat.lt_of_succ_lt fits)).of_none failed
  | case3 token rest comma first suffix a found others ih =>
    have fits' : rest.length < room := Nat.lt_of_succ_lt fits
    have later : others.Shows P := ih (Nat.lt_of_le_of_lt first.suffix.length_le fits')
    rw [Outcome.Shows, Option.isSome_map]
    exact composes.append ((items rest fits').of_some found) later
  | case4 => exact composes.silent

theorem shows_commaSeparated (composes : Composes P) {item : Reader α}
    (items : item.Shows P room) : (commaSeparated item).Shows P room := by
  refine composes.shows_bind (composes.shows_next _) fun more => ?_
  split
  · exact composes.shows_bind items fun first =>
      composes.shows_bind (composes.shows_behindCommas items) fun others => composes.shows_pure _
  · exact composes.shows_pure _

end Composes

end Combinators

section Expressions

variable {inner operand : Reader Node} {free : Nat}

namespace Composes

/-- Where the bound on nesting is allowed for, an operator may be the one that exceeds it. -/
theorem shows_chainFrom (composes : Composes P) (deep : ∀ line, P false [.nestingTooDeep line])
    (operands : operand.Shows P room) (operators : List String) (left : Node)
    (height : Option Nat) : Reader.Shows P room (chainFrom free operators operand left height) := by
  intro tokens fits
  fun_induction chainFrom free operators operand left height tokens with
  | case1 => exact composes.silent
  | case2 left height sign rest isSign right suffix failed =>
    exact (operands rest (Nat.lt_of_succ_lt fits)).of_none failed
  | case3 left height sign rest isSign right suffix node found below tight =>
    exact composes.append ((operands rest (Nat.lt_of_succ_lt fits)).of_some found) (deep sign.line)
  | case4 left height sign rest isSign right suffix node found below room' others ih =>
    have fits' : rest.length < room := Nat.lt_of_succ_lt fits
    have later : others.Shows P := ih (Nat.lt_of_le_of_lt right.suffix.length_le fits')
    exact composes.append ((operands rest fits').of_some found) later
  | case5 => exact composes.silent

theorem shows_chain (composes : Composes P) (deep : ∀ line, P false [.nestingTooDeep line])
    (operands : operand.Shows P room) (operators : List String) :
    (chain free operators operand).Shows P room :=
  composes.shows_bind operands fun first =>
    composes.shows_chainFrom deep operands operators first none

theorem shows_call (composes : Composes P) (inside : inner.Shows P room) (callee : Token) :
    (call inner callee).Shows P room :=
  composes.shows_bind composes.shows_skip fun _ =>
    composes.shows_bind (composes.shows_commaSeparated inside) fun _ =>
      composes.shows_bind (composes.shows_expect _ _) fun _ => composes.shows_pure _

/-- What is nested in a factor stands behind its first token. -/
theorem shows_factor (composes : Composes P) (inside : inner.Shows P room) :
    (factor inner).Shows P (room + 1) := by
  intro tokens fits
  rw [factor, peek_bind]
  cases tokens with
  | nil => exact composes.single (by simp)
  | cons token rest =>
    have fits' : rest.length < room := Nat.lt_of_succ_lt_succ fits
    dsimp only [List.head?_cons]
    split
    · exact composes.silent
    split
    · exact composes.silent
    split
    · refine behind_skip (composes.shows_bind (composes.shows_next _) fun opens => ?_) fits'
      split
      · exact composes.shows_call inside token
      · exact composes.shows_pure _
    rw [second_bind]
    split
    · exact behind_skip (composes.shows_call inside token) fits'
    split
    · exact behind_skip (composes.shows_bind inside fun _ =>
        composes.shows_bind (composes.shows_expect _ _) fun _ => composes.shows_pure _) fits'
    · exact composes.single (by simp)

theorem shows_comparison (composes : Composes P) (sides : (arithmetic free inner).Shows P room) :
    (comparison free inner).Shows P room := by
  refine composes.shows_bind sides fun left =>
    composes.shows_bind (composes.shows_accept _) fun sign => ?_
  cases sign with
  | none => exact composes.shows_pure _
  | some sign => exact composes.shows_bind sides fun right => composes.shows_pure _

/-- An expression shows whatever composes and allows for the fault of being too deep. -/
theorem shows_expression (composes : Composes P) (deep : ∀ line, P false [.nestingTooDeep line])
    (lastLine : UInt32) (free room : Nat) :
    Reader.Shows P room (expression lastLine free) := by
  induction free generalizing room with
  | zero => exact fun tokens _ => deep _
  | succ free ih =>
    have factors : (factor (expression lastLine free)).Shows P room :=
      (composes.shows_factor (ih room)).mono (Nat.le_succ room)
    exact composes.shows_comparison
      (composes.shows_chain deep (composes.shows_chain deep factors _) _)

end Composes

end Expressions

section Statements

variable {inner inside : Reader Node}

namespace Composes

/-- A body ends at a statement that fails and keeps its faults, so the property has to forgive. -/
theorem shows_block (composes : Composes P) (forgives : Forgives P)
    (bodies : inner.Shows P room) (stop : Token → Bool) :
    Reader.Shows P room (block stop inner) := by
  intro tokens fits
  fun_induction block stop inner tokens with
  | case1 => exact composes.silent
  | case2 => exact composes.silent
  | case3 token rest goesOn first failed => exact (bodies _ fits).forgiven forgives
  | case4 token rest goesOn first node found shorter others ih =>
    have later : others.Shows P := ih (Nat.lt_trans shorter fits)
    rw [Outcome.Shows, Option.isSome_map]
    exact composes.append ((bodies _ fits).of_some found) later
  | case5 token rest goesOn first node found => exact (bodies _ fits).of_some found

/-- Behind its `def` a definition has a token less to read. -/
theorem shows_functionDef (composes : Composes P) (forgives : Forgives P)
    (bodies : inner.Shows P room) (fits : rest.length < room) :
    (functionDef inner (token :: rest)).Shows P :=
  behind_skip (composes.shows_bind (composes.shows_expect _ _) fun _ =>
    composes.shows_bind (composes.shows_expect _ _) fun _ =>
      composes.shows_bind (composes.shows_commaSeparated
          (shows_attempt forgives (composes.shows_expect _ _))) fun _ =>
        composes.shows_bind (composes.shows_expect _ _) fun _ =>
          composes.shows_bind (composes.shows_expect _ _) fun _ =>
            composes.shows_bind (composes.shows_block forgives bodies _) fun _ =>
              composes.shows_pure _) fits

theorem shows_ifStatement (composes : Composes P) (forgives : Forgives P)
    (bodies : inner.Shows P room) (conditions : inside.Shows P room) (keyword : Token)
    (fits : rest.length < room) : (ifStatement inner inside keyword (token :: rest)).Shows P := by
  refine behind_skip (composes.shows_bind conditions fun _ =>
    composes.shows_bind (composes.shows_expect _ _) fun _ =>
      composes.shows_bind (composes.shows_block forgives bodies _) fun _ =>
        composes.shows_bind (composes.shows_next _) fun other => ?_) fits
  split
  · exact composes.shows_bind composes.shows_skip fun _ =>
      composes.shows_bind (composes.shows_expect _ _) fun _ =>
        composes.shows_bind (composes.shows_block forgives bodies _) fun _ =>
          composes.shows_pure _
  · exact composes.shows_pure _

theorem shows_returnStatement (composes : Composes P) (values : inside.Shows P room)
    (keyword : Token) (fits : rest.length < room) :
    (returnStatement inside keyword (token :: rest)).Shows P := by
  refine behind_skip (composes.shows_bind (composes.shows_next _) fun more => ?_) fits
  split
  · exact composes.shows_bind values fun _ => composes.shows_pure _
  · exact composes.shows_pure _

theorem shows_assignment (composes : Composes P) (values : inside.Shows P room) (name : Token)
    (fits : rest.length < room) : (assignment inside name (token :: rest)).Shows P :=
  behind_skip (composes.shows_bind composes.shows_skip fun _ =>
    composes.shows_bind values fun _ => composes.shows_pure _) fits

/-- A statement may be an expression from its first token on; a body stands behind it. -/
theorem shows_statementOf (composes : Composes P) (forgives : Forgives P)
    (bodies : inner.Shows P room) (expressions : inside.Shows P (room + 1)) :
    (statementOf inner inside).Shows P (room + 1) := by
  intro tokens fits
  rw [statementOf, peek_bind]
  cases tokens with
  | nil => exact expressions [] fits
  | cons token rest =>
    have fits' : rest.length < room := Nat.lt_of_succ_lt_succ fits
    have behind : inside.Shows P room := expressions.mono (Nat.le_succ room)
    dsimp only [List.head?_cons]
    split
    · exact composes.shows_functionDef forgives bodies fits'
    split
    · exact composes.shows_ifStatement forgives bodies behind token fits'
    split
    · exact composes.shows_returnStatement behind token fits'
    rw [second_bind]
    split
    · exact composes.shows_assignment behind token fits'
    · exact expressions _ fits

/-- Reading goes on after a statement that fails, with fewer tokens left. -/
theorem shows_statements (composes : Composes P) (forgives : Forgives P) {reader : Reader Node}
    (shown : reader.Shows P room) (tokens : List Token) :
    tokens.length < room → P true (statements reader tokens).2 := by
  cases tokens with
  | nil =>
    intro _
    rw [statements_nil]
    exact composes.silent
  | cons token rest =>
    intro fits
    have shorter := (resumption_suffix reader token rest).length_le
    have others := composes.shows_statements forgives shown (resumption reader token rest)
      (Nat.lt_of_le_of_lt shorter (Nat.lt_of_succ_lt fits))
    rw [statements_cons]
    exact composes.append ((shown _ fits).forgiven forgives) others
termination_by tokens.length
decreasing_by exact Nat.lt_succ_of_le (resumption_suffix _ token rest).length_le

end Composes

end Statements

end SnippetCheck.Grammar

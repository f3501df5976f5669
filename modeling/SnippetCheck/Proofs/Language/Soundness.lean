import SnippetCheck.Proofs.Reading.Recovery

namespace SnippetCheck.Grammar

theorem Derives.item_single {item : Item} {tokens rest : List Token} {trees : List Node}
    (derived : Derives item.phrase tokens trees rest) : ∃ tree, trees = [tree] := by
  cases item with
  | parameter =>
    change Derives .parameter tokens trees rest at derived
    cases derived
    exact ⟨_, rfl⟩
  | argument =>
    change Derives .expression tokens trees rest at derived
    cases derived <;> exact ⟨_, rfl⟩

/-- A reading without faults follows the grammar: what was added for recovery always leaves one. -/
theorem Reads.derives {free : Nat} {phrase : Phrase} {tokens rest : List Token}
    {trees : List Node} {faults : List Diagnostic}
    (reads : Reads free phrase tokens trees rest faults) (silent : faults = []) :
    Derives phrase tokens trees rest := by
  induction reads with
  | number kind => exact .number kind
  | string kind => exact .string kind
  | name kind alone => exact .name kind alone
  | call callable opens _ closes ih => exact .call callable opens (ih silent) closes
  | parenthesized opens _ closes ih => exact .parenthesized opens (ih silent) closes
  | operand _ ih => exact .operand (ih silent)
  | operation _ kind text _ _ ih ih' =>
    obtain ⟨before, after⟩ := List.append_eq_nil_iff.mp silent
    exact .operation (ih before) kind text (ih' after)
  | arithmetic _ ih => exact .arithmetic (ih silent)
  | comparison _ kind text _ ih ih' =>
    obtain ⟨before, after⟩ := List.append_eq_nil_iff.mp silent
    exact .comparison (ih before) kind text (ih' after)
  | parameter kind => exact .parameter kind
  | missingParameter missing => exact absurd silent missing
  | noItems => exact .noItems
  | items _ _ ih ih' =>
    obtain ⟨before, after⟩ := List.append_eq_nil_iff.mp silent
    obtain ⟨tree, rfl⟩ := (ih before).item_single
    exact .items (ih before) (ih' after)
  | noMore => exact .noMore
  | more comma _ _ ih ih' =>
    obtain ⟨before, after⟩ := List.append_eq_nil_iff.mp silent
    obtain ⟨tree, rfl⟩ := (ih before).item_single
    exact .more comma (ih before) (ih' after)
  | definition isDef name opens _ closes colon _ ih ih' =>
    obtain ⟨before, after⟩ := List.append_eq_nil_iff.mp silent
    exact .definition isDef name opens (ih before) closes colon (ih' after)
  | conditional isIf _ colon _ alone ih ih' =>
    obtain ⟨before, after⟩ := List.append_eq_nil_iff.mp silent
    exact .conditional isIf (ih before) colon (ih' after) alone
  | alternative isIf _ colon _ other colon' _ ih ih' ih'' =>
    obtain ⟨front, after⟩ := List.append_eq_nil_iff.mp silent
    obtain ⟨before, between⟩ := List.append_eq_nil_iff.mp front
    exact .alternative isIf (ih before) colon (ih' between) other colon' (ih'' after)
  | bareReturn isReturn alone => exact .bareReturn isReturn alone
  | returnValue isReturn more _ ih => exact .returnValue isReturn more (ih silent)
  | assignment name equals _ ih => exact .assignment name equals (ih silent)
  | expression _ ih => exact .expression (ih silent)
  | bodyEnd stops => exact .bodyEnd stops
  | brokenBody _ broken => exact absurd silent broken
  | bodyStatement goesOn _ _ ih ih' =>
    obtain ⟨before, after⟩ := List.append_eq_nil_iff.mp silent
    exact .bodyStatement goesOn (ih before) (ih' after)

/-- A run without faults over tokens at all has found a program. -/
theorem ReadsProgram.program {free : Nat} {tokens : List Token} {trees : List Node}
    {faults : List Diagnostic} (reads : ReadsProgram free tokens trees faults)
    (silent : faults = []) (nonempty : tokens ≠ []) : Program tokens trees := by
  induction reads with
  | done => exact absurd rfl nonempty
  | @statement tokens node rest before others after read later ih =>
    obtain ⟨quiet, quiet'⟩ := List.append_eq_nil_iff.mp silent
    have derived := read.derives quiet
    cases later with
    | done => exact .last derived
    | statement read' later' =>
      exact .next derived (ih quiet' fun none => by simpa [none] using read'.rest_length.2 rfl)
    | failure => exact .next derived (ih quiet' (by simp))
  | failure _ broken =>
    exact absurd (List.append_eq_nil_iff.mp silent).1 broken

end SnippetCheck.Grammar

import Mathlib.Data.List.Basic
import SnippetCheck.Check.Battery

namespace SnippetCheck

namespace Findings

/-- Findings one after the other. -/
def append (earlier later : Findings) : Findings :=
  ⟨earlier.verdicts ++ later.verdicts, earlier.warnings ++ later.warnings,
    earlier.errors ++ later.errors⟩

instance : Append Findings :=
  ⟨append⟩

/-- What is found for each of some items, in their order. -/
def ofEach {α : Type} (found : α → Findings) (items : List α) : Findings :=
  ⟨items.flatMap fun item => (found item).verdicts, items.flatMap fun item => (found item).warnings,
    items.flatMap fun item => (found item).errors⟩

theorem append_def (earlier later : Findings) :
    earlier ++ later = ⟨earlier.verdicts ++ later.verdicts, earlier.warnings ++ later.warnings,
      earlier.errors ++ later.errors⟩ :=
  rfl

theorem append_assoc (a b c : Findings) : a ++ b ++ c = a ++ (b ++ c) := by
  simp only [append_def, List.append_assoc]

theorem append_none (findings : Findings) : findings ++ none = findings := by
  simp only [append_def, none, List.append_nil]

theorem ofEach_cons {α : Type} (found : α → Findings) (item : α) (rest : List α) :
    ofEach found (item :: rest) = found item ++ ofEach found rest :=
  rfl

/-- Where warnings are all that is found, there are no verdicts and no errors. -/
theorem ofEach_warnings {α : Type} (found : α → List Warning) (items : List α) :
    ofEach (fun item => ⟨[], found item, []⟩) items = ⟨[], items.flatMap found, []⟩ := by
  induction items with
  | nil => rfl
  | cons item rest ih => rw [ofEach_cons, ih, append_def, List.flatMap_cons]; rfl

/-- The step puts these findings behind those it gets. It takes none of them away, and whatever
they are, what it adds is the same. -/
def Adds (step : Findings → Findings) (added : Findings) : Prop :=
  ∀ output, step output = output ++ added

/-- A verdict goes behind those that have been given. -/
theorem adds_verdict (verdict : Verdict) : Adds (·.addVerdict verdict) ⟨[verdict], [], []⟩ := by
  intro output
  simp only [addVerdict, append_def, List.append_nil]

theorem adds_warnings (warnings : List Warning) :
    Adds (·.addWarnings warnings) ⟨[], warnings, []⟩ := by
  intro output
  simp only [addWarnings, append_def, List.append_nil]

theorem adds_errors (errors : List HardError) : Adds (·.addErrors errors) ⟨[], [], errors⟩ := by
  intro output
  simp only [addErrors, append_def, List.append_nil]

namespace Adds

variable {step next : Findings → Findings} {added more : Findings}

/-- What a step adds is what it makes of nothing. -/
theorem alone (adds : Adds step added) : step none = added :=
  adds none

/-- Two steps one behind the other add what each adds. -/
theorem followed (adds : Adds step added) (later : Adds next more) :
    Adds (fun output => next (step output)) (added ++ more) := by
  intro output
  show next (step output) = output ++ (added ++ more)
  rw [later, adds, append_assoc]

/-- A loop whose rounds add to the findings adds what its rounds add, one behind the other. -/
theorem foldl {α : Type} {round : Findings → α → Findings} {found : α → Findings}
    (adds : ∀ item, Adds (round · item) (found item)) (items : List α) :
    Adds (items.foldl round) (ofEach found items) := by
  induction items with
  | nil => exact fun output => output.append_none.symm
  | cons item rest ih =>
    intro output
    have first : round output item = output ++ found item := adds item output
    calc (item :: rest).foldl round output
        = round output item ++ ofEach found rest := ih (round output item)
      _ = output ++ ofEach found (item :: rest) := by rw [first, append_assoc, ofEach_cons]

end Adds
end Findings

open Findings

namespace Subject

/-- Findings that are one verdict. -/
def verdict (description : String) (passed : Bool) (line : Option UInt32) : Findings :=
  ⟨[⟨description, passed, line⟩], [], []⟩

theorem none_addVerdict (description : String) (passed : Bool) (line : Option UInt32) :
    none.addVerdict ⟨description, passed, line⟩ = verdict description passed line :=
  rfl

variable (subject : Subject)

theorem adds_definedBeforeUse :
    Adds subject.definedBeforeUse (subject.definedBeforeUse none) :=
  (adds_verdict _).followed (adds_errors _)

/-- One round of the loop over the tokens adds the warning for its token, if there is one. -/
theorem adds_usageOrder :
    Adds subject.usageOrder
      ⟨[], (Neighbours.indexed subject.tokens).filterMap fun entry =>
        subject.usageWarning subject.assignments entry.1 entry.2, []⟩ := by
  have rounds := Adds.foldl (fun entry : Nat × Token =>
    adds_warnings (subject.usageWarning subject.assignments entry.1 entry.2).toList)
    (Neighbours.indexed subject.tokens)
  rwa [ofEach_warnings, ← List.filterMap_eq_flatMap_toList] at rounds

theorem adds_parameterUsage :
    Adds subject.parameterUsage (subject.parameterUsage none) :=
  adds_verdict _

theorem adds_callArguments : Adds subject.callArguments (subject.callArguments none) :=
  adds_verdict _

theorem adds_recursiveCall : Adds subject.recursiveCall (subject.recursiveCall none) :=
  adds_verdict _

theorem adds_scopeCollision : Adds subject.scopeCollision (subject.scopeCollision none) :=
  (adds_verdict _).followed (adds_warnings _)

theorem adds_scopeSeparation : Adds subject.scopeSeparation (subject.scopeSeparation none) :=
  adds_verdict _

end Subject

namespace Check

variable (subject : Subject) (check : Check)

theorem run_eq : check.run subject = Check.runOn subject none check :=
  rfl

/-- Every check puts what it finds alone behind what has been found before it. -/
theorem adds_runOn : Adds (Check.runOn subject · check) (check.run subject) := by
  cases check with
  | definedBeforeUse => exact subject.adds_definedBeforeUse
  | usageOrder =>
    have added := subject.adds_usageOrder
    rwa [← added.alone] at added
  | parameterUsage => exact subject.adds_parameterUsage
  | callArguments => exact subject.adds_callArguments
  | recursiveCall => exact subject.adds_recursiveCall
  | scopeCollision => exact subject.adds_scopeCollision
  | scopeSeparation => exact subject.adds_scopeSeparation

/-- Alone, the check on the order of use gives the warnings of the tokens. -/
theorem run_usageOrder :
    Check.run subject .usageOrder =
      ⟨[], (Neighbours.indexed subject.tokens).filterMap fun entry =>
        subject.usageWarning subject.assignments entry.1 entry.2, []⟩ :=
  subject.adds_usageOrder.alone

end Check

namespace Battery

variable (subject : Subject)

/-- A battery finds what its checks find alone, one behind the other. -/
theorem run_eq (battery : Battery) : battery.run subject = ofEach (Check.run subject) battery :=
  (Adds.foldl (fun check => check.adds_runOn subject) battery).alone

theorem run_cons (check : Check) (rest : Battery) :
    Battery.run (check :: rest) subject = check.run subject ++ rest.run subject := by
  rw [run_eq, run_eq, ofEach_cons]

end Battery
end SnippetCheck

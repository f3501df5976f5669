import SnippetCheck.Proofs.Check.Additions

namespace SnippetCheck

/-- What the check of the order of definition and use says it looked at. -/
def WatchList.orderDescription (watch : WatchList) : String :=
  s!"function '{watch.targetFunction}' is defined before use"

/-- A verdict on the order of definition and use. -/
def Verdict.isOnOrder (watch : WatchList) (verdict : Verdict) : Bool :=
  verdict.description == watch.orderDescription

namespace Check

variable (subject : Subject) (check : Check)

theorem length_verdicts_run :
    (check.run subject).verdicts.length = if check = .usageOrder then 0 else 1 := by
  cases check with
  | usageOrder => rw [run_usageOrder, if_pos rfl, List.length_nil]
  | _ => rfl

/-- No other check says that it looked at the order of definition and use: the texts differ in
their first letter, whatever names stand in them. -/
theorem isOnOrder_eq {verdict : Verdict} (member : verdict ∈ (check.run subject).verdicts) :
    verdict.isOnOrder subject.watch = decide (check = .definedBeforeUse) := by
  rw [Verdict.isOnOrder, Bool.beq_eq_decide_eq]
  refine decide_eq_decide.mpr ?_
  cases check with
  | definedBeforeUse =>
    obtain rfl := List.mem_singleton.mp member
    exact ⟨fun _ => rfl, fun _ => rfl⟩
  | usageOrder => rw [run_usageOrder] at member; cases member
  | _ =>
    obtain rfl := List.mem_singleton.mp member
    refine ⟨fun same => ?_, nofun⟩
    have letters := congrArg (·.toList.head?) same
    simp [WatchList.orderDescription, toString, String.toList_append] at letters

/-- One check only can find an error. It finds one if its verdict is that it does not hold. -/
theorem length_errors_run :
    (check.run subject).errors.length =
      (check.run subject).verdicts.countP fun verdict =>
        verdict.isOnOrder subject.watch && !verdict.passed := by
  have only : (check.run subject).verdicts.countP
        (fun verdict => verdict.isOnOrder subject.watch && !verdict.passed) =
      (check.run subject).verdicts.countP
        fun verdict => check = .definedBeforeUse && !verdict.passed :=
    List.countP_congr fun verdict member => by rw [check.isOnOrder_eq subject member]
  rw [only]
  cases check with
  | definedBeforeUse =>
    have found : Check.run subject .definedBeforeUse =
        ⟨[⟨subject.watch.orderDescription, subject.targetError.isNone, _⟩], [],
          subject.targetError.toList⟩ := rfl
    rw [found]
    cases subject.targetError <;> rfl
  | usageOrder => rw [run_usageOrder]; rfl
  | _ => exact (List.countP_eq_zero.mpr (by simp)).symm

end Check

namespace Battery

variable (subject : Subject)

theorem length_errors_run (battery : Battery) :
    (battery.run subject).errors.length = (battery.run subject).verdicts.countP
      fun verdict => verdict.isOnOrder subject.watch && !verdict.passed := by
  simp only [run_eq, Findings.ofEach, List.length_flatMap, List.countP_flatMap,
    Function.comp_def, Check.length_errors_run]

/-- The verdicts on the order of definition and use are those that are given when no other check
is run. -/
theorem filter_isOnOrder_run (battery : Battery) :
    (battery.run subject).verdicts.filter (·.isOnOrder subject.watch) =
      (Battery.run (battery.filter (· = .definedBeforeUse)) subject).verdicts := by
  induction battery with
  | nil => rfl
  | cons check rest ih =>
    rw [run_cons, Findings.append_def, List.filter_append, ih]
    by_cases order : check = .definedBeforeUse
    · rw [List.filter_cons_of_pos (by simp [order]), run_cons, Findings.append_def,
        List.filter_eq_self.mpr fun verdict member => by
          rw [check.isOnOrder_eq subject member, order]; rfl]
    · rw [List.filter_cons_of_neg (by simp [order]),
        List.filter_eq_nil_iff.mpr fun verdict member => by
          simp [check.isOnOrder_eq subject member, order],
        List.nil_append]

end Battery

/-- A report is valid unless a verdict on the order of definition and use is that it does not
hold. -/
theorem CheckReport.valid_eq_false_iff (watch : WatchList) (battery : Battery) (tokens : List Token)
    (tree : Node) :
    (CheckReport.of watch battery tokens tree).valid = false ↔
      ∃ verdict ∈ (CheckReport.of watch battery tokens tree).verdicts,
        verdict.isOnOrder watch = true ∧ verdict.passed = false := by
  show (battery.run ⟨tokens, (collectSymbols tree).table, watch⟩).errors.isEmpty = false ↔
    ∃ verdict ∈ (battery.run ⟨tokens, (collectSymbols tree).table, watch⟩).verdicts,
      verdict.isOnOrder watch = true ∧ verdict.passed = false
  rw [List.isEmpty_eq_false_iff, ← List.length_pos_iff, Battery.length_errors_run,
    List.countP_pos_iff]
  simp only [Bool.and_eq_true, Bool.not_eq_true']

/-- All checks write to one output. Whatever stands there, each puts behind it what it finds alone,
and so a battery finds what its checks find alone, one behind the other. Each of them gives one
verdict, save that on the order of use, which gives none. There are as many hard errors as failed
verdicts on the order of definition and use, and those are the verdicts that this check gives when
the others are left out. So a report is valid unless there is such a verdict, whatever else was
found. -/
theorem battery_independent (battery : Battery) :
    (∀ subject,
      (∀ check output,
        Check.runOn subject output check = output ++ Battery.run [check] subject) ∧
      (battery.run subject).verdicts =
        battery.flatMap (fun check => (Battery.run [check] subject).verdicts) ∧
      (battery.run subject).warnings =
        battery.flatMap (fun check => (Battery.run [check] subject).warnings) ∧
      (battery.run subject).errors =
        battery.flatMap (fun check => (Battery.run [check] subject).errors) ∧
      (∀ check, (Battery.run [check] subject).verdicts.length =
        if check = .usageOrder then 0 else 1) ∧
      (battery.run subject).verdicts.filter (·.isOnOrder subject.watch) =
        (Battery.run (battery.filter (· = .definedBeforeUse)) subject).verdicts ∧
      (battery.run subject).errors.length = (battery.run subject).verdicts.countP
        fun verdict => verdict.isOnOrder subject.watch && !verdict.passed) ∧
    ∀ watch tokens tree, (CheckReport.of watch battery tokens tree).valid = false ↔
      ∃ verdict ∈ (CheckReport.of watch battery tokens tree).verdicts,
        verdict.isOnOrder watch = true ∧ verdict.passed = false := by
  refine ⟨fun subject => ⟨?_, ?_, ?_, ?_, ?_, ?_, ?_⟩, fun watch => ?_⟩
  · exact fun check => check.adds_runOn subject
  · exact congrArg Findings.verdicts (battery.run_eq subject)
  · exact congrArg Findings.warnings (battery.run_eq subject)
  · exact congrArg Findings.errors (battery.run_eq subject)
  · exact Check.length_verdicts_run subject
  · exact Battery.filter_isOnOrder_run subject battery
  · exact Battery.length_errors_run subject battery
  · exact CheckReport.valid_eq_false_iff watch battery

end SnippetCheck

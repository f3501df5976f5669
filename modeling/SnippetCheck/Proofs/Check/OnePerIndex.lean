import Mathlib.Data.List.Forall2
import Mathlib.Data.List.Induction

namespace SnippetCheck

variable {α β : Type}

/-- The reports are, in order, one for each index at which there is something to report. -/
def OnePerIndex (reported : Nat → β → Prop) (reports : List β) : Prop :=
  ∃ indexes : List Nat, indexes.Pairwise (· < ·) ∧
    (∀ index, index ∈ indexes ↔ ∃ report, reported index report) ∧
    List.Forall₂ reported indexes reports

namespace OnePerIndex

variable {reported reported' : Nat → β → Prop} {reports : List β}

theorem congr (one : OnePerIndex reported reports)
    (same : ∀ index report, reported' index report ↔ reported index report) :
    OnePerIndex reported' reports := by
  have equal : reported' = reported := funext₂ fun index report => propext (same index report)
  exact equal ▸ one

/-- Further indexes are reported behind the others. -/
theorem concat {report : β} {last : Nat} (one : OnePerIndex reported reports)
    (below : ∀ index report, reported index report → index < last) :
    OnePerIndex (fun index other => reported index other ∨ index = last ∧ other = report)
      (reports ++ [report]) := by
  obtain ⟨indexes, sorted, each, paired⟩ := one
  refine ⟨indexes ++ [last], ?_, fun index => ?_, ?_⟩
  · refine List.pairwise_append.mpr ⟨sorted, List.pairwise_singleton _ _, fun index member => ?_⟩
    obtain ⟨other, here⟩ := (each index).mp member
    simpa using below index other here
  · rw [List.mem_append, List.mem_singleton, each]
    simp only [exists_or, exists_and_left, exists_eq, and_true]
  · exact List.rel_append (paired.imp fun _ _ here => .inl here) (.cons (.inr ⟨rfl, rfl⟩) .nil)

theorem exists_of_mem (one : OnePerIndex reported reports) {report : β}
    (member : report ∈ reports) : ∃ index, reported index report := by
  obtain ⟨indexes, -, -, paired⟩ := one
  obtain ⟨place, bound, rfl⟩ := List.getElem_of_mem member
  exact ⟨_, paired.get (paired.length_eq ▸ bound) bound⟩

theorem exists_mem (one : OnePerIndex reported reports) {index : Nat} {report : β}
    (here : reported index report) : ∃ other ∈ reports, reported index other := by
  obtain ⟨indexes, -, each, paired⟩ := one
  obtain ⟨place, bound, rfl⟩ := List.getElem_of_mem ((each index).mpr ⟨report, here⟩)
  exact ⟨_, List.getElem_mem (paired.length_eq ▸ bound), paired.get bound _⟩

theorem pairwise (one : OnePerIndex reported reports) {R : β → β → Prop}
    (apart : ∀ first second report other, first < second → reported first report →
      reported second other → R report other) : reports.Pairwise R := by
  obtain ⟨indexes, sorted, -, paired⟩ := one
  induction paired with
  | nil => exact .nil
  | @cons index report indexes reports here others ih =>
    obtain ⟨before, sorted⟩ := List.pairwise_cons.mp sorted
    refine .cons (fun other member => ?_) (ih sorted)
    obtain ⟨place, bound, rfl⟩ := List.getElem_of_mem member
    have inside := others.length_eq ▸ bound
    exact apart index _ _ _ (before _ (List.getElem_mem inside)) here (others.get inside bound)

/-- What a step finds at an index of a longer list, it finds in the list before, or at the end. -/
theorem step_concat {step : List α → α → Option β} {before : List α} {last : α} {index : Nat}
    {report : β} :
    (∃ a, (before ++ [last])[index]? = some a ∧
        step ((before ++ [last]).take index) a = some report) ↔
      (∃ a, before[index]? = some a ∧ step (before.take index) a = some report) ∨
        index = before.length ∧ step before last = some report := by
  rcases Nat.lt_trichotomy index before.length with inside | rfl | beyond
  · rw [List.getElem?_append_left inside, List.take_append_of_le_length (Nat.le_of_lt inside)]
    simp [Nat.ne_of_lt inside]
  · rw [List.getElem?_concat_length, List.take_left, List.getElem?_eq_none (Nat.le_refl _)]
    simp
  · have outside : (before ++ [last]).length ≤ index := by
      rw [List.length_append]
      exact beyond
    rw [List.getElem?_eq_none outside, List.getElem?_eq_none (Nat.le_of_lt beyond)]
    simp [Nat.ne_of_gt beyond]

/-- A scan that looks at one element after the other, and for each at those before it, reports in
order what it finds. -/
theorem of_scan (scan : List α → List β) (step : List α → α → Option β) (empty : scan [] = [])
    (next : ∀ before a, scan (before ++ [a]) = scan before ++ (step before a).toList)
    (list : List α) :
    OnePerIndex (fun index report => ∃ a, list[index]? = some a ∧
      step (list.take index) a = some report) (scan list) := by
  induction list using List.reverseRecOn with
  | nil => exact ⟨[], .nil, by simp, empty ▸ .nil⟩
  | append_singleton before last ih =>
    rw [next]
    cases found : step before last with
    | none =>
      rw [Option.toList_none, List.append_nil]
      exact ih.congr fun index report => by simp [step_concat, found]
    | some report =>
      have below (index : Nat) (report : β) : (∃ a, before[index]? = some a ∧
          step (before.take index) a = some report) → index < before.length := by
        rintro ⟨a, here, -⟩
        exact (List.getElem?_eq_some_iff.mp here).1
      exact (ih.concat below).congr fun index other => by
        simp [step_concat, found, eq_comm (a := other)]

end OnePerIndex
end SnippetCheck

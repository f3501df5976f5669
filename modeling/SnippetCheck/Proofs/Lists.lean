import Mathlib.Data.List.Forall2
import Mathlib.Data.List.Induction

namespace SnippetCheck

section Distinct

variable {α : Type} [BEq α] [LawfulBEq α]

theorem eraseDups_concat (keys : List α) (key : α) :
    (keys ++ [key]).eraseDups =
      if key ∈ keys then keys.eraseDups else keys.eraseDups ++ [key] := by
  rw [List.eraseDups_append, List.removeAll]
  by_cases known : key ∈ keys
  · rw [if_pos known, List.filter_cons_of_neg (by simpa using known)]
    simp
  · rw [if_neg known, List.filter_cons_of_pos (by simpa using known)]
    rfl

theorem nodup_eraseDups (keys : List α) : keys.eraseDups.Nodup := by
  induction keys using List.reverseRecOn with
  | nil => exact List.nodup_nil
  | append_singleton before last ih =>
    rw [eraseDups_concat]
    split
    · exact ih
    · next new =>
      refine List.nodup_append.mpr ⟨ih, List.pairwise_singleton _ _, fun key member other last => ?_⟩
      obtain rfl := List.mem_singleton.mp last
      rintro rfl
      exact new (List.mem_eraseDups.mp member)

end Distinct

section Paired

variable {α β : Type} {R : α → β → Prop}

/-- In lists that are paired off, a member of the first has its partner in the second. -/
theorem exists_of_forall₂ {as : List α} {bs : List β} (paired : List.Forall₂ R as bs) {a : α}
    (member : a ∈ as) : ∃ b ∈ bs, R a b := by
  induction paired with
  | nil => cases member
  | cons first _ ih =>
    rcases List.mem_cons.mp member with rfl | later
    · exact ⟨_, List.mem_cons_self, first⟩
    · obtain ⟨b, there, related⟩ := ih later
      exact ⟨b, List.mem_cons_of_mem _ there, related⟩

theorem forall₂_toList {a : Option α} {b : Option β} (same : Option.Rel R a b) :
    List.Forall₂ R a.toList b.toList := by
  cases same with
  | none => exact .nil
  | some related => exact .cons related .nil

theorem map_eq_iff_forall₂ (f : α → β) {as bs : List α} :
    as.map f = bs.map f ↔ List.Forall₂ (fun a b => f a = f b) as bs := by
  rw [← List.forall₂_eq_eq_eq, List.forall₂_map_left_iff, List.forall₂_map_right_iff]

end Paired

/-- A search among what elements show, told by a search among the elements. -/
theorem find?_filterMap_map {α β γ : Type} {f : α → Option β} {g : β → γ} {h : α → γ}
    (agree : ∀ a b, f a = some b → g b = h a) (p : β → Bool) (as : List α) :
    ((as.filterMap f).find? p).map g = (as.find? fun a => (f a).any p).map h := by
  rw [List.find?_filterMap]
  cases found : as.find? fun a => (f a).any p with
  | none => rfl
  | some a =>
    have holds := List.find?_some found
    obtain ⟨b, same, -⟩ := (Option.any_eq_true _ _).mp holds
    rw [Option.bind_some, same, Option.map_some, Option.map_some, agree a b same]

/-- What begins a list and leaves out the element that ends its first part begins that part. -/
theorem prefix_of_notMem {α : Type} {fence : α} {whole part rest : List α} (absent : fence ∉ whole)
    (begins : whole <+: part ++ fence :: rest) : whole <+: part := by
  by_cases longer : part.length < whole.length
  · have within : part ++ [fence] <+: whole := by
      refine List.prefix_of_prefix_length_le ⟨rest, by simp⟩ begins ?_
      rw [List.length_append, List.length_singleton]
      exact longer
    exact absurd (within.subset (by simp)) absent
  · exact List.prefix_of_prefix_length_le begins (List.prefix_append _ _) (Nat.le_of_not_lt longer)

end SnippetCheck

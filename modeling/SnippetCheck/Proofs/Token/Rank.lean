import Mathlib.Data.List.Basic
import SnippetCheck.Proofs.Token.Signature

namespace SnippetCheck

theorem significantTokens_idem (tokens : List Token) :
    significantTokens (significantTokens tokens) = significantTokens tokens := by
  simp [significantTokens]

namespace Neighbours

/-- The index that a token has once all trivia before it are taken out. -/
def rank (tokens : List Token) (index : Nat) : Nat :=
  (before tokens index).length

/-- A token with its index among the significant tokens. -/
def ranked (tokens : List Token) (entry : Nat × Token) : Nat × Token :=
  (rank tokens entry.1, entry.2)

variable {tokens : List Token}

theorem rank_succ_of_significant {index : Nat} {token : Token} (found : tokens[index]? = some token)
    (significant : token.isSignificant = true) :
    rank tokens (index + 1) = rank tokens index + 1 := by
  rw [rank, before_succ found, if_pos significant]
  rfl

theorem rank_mono (tokens : List Token) {first last : Nat} (order : first ≤ last) :
    rank tokens first ≤ rank tokens last := by
  simp only [rank, before, List.length_reverse]
  exact ((List.take_sublist_take_left order).filter _).length_le

/-- Taking trivia out changes indexes, but not which of two tokens comes first. -/
theorem rank_lt_rank_iff {first last : Nat} {token : Token} (found : tokens[first]? = some token)
    (significant : token.isSignificant = true) :
    rank tokens first < rank tokens last ↔ first < last := by
  constructor
  · intro order
    rcases Nat.lt_or_ge first last with earlier | later
    · exact earlier
    · exact absurd (rank_mono tokens later) (Nat.not_le_of_lt order)
  · intro order
    have step := rank_succ_of_significant found significant
    have bound := rank_mono tokens (show first + 1 ≤ last from order)
    omega

theorem rank_append (front rest : List Token) :
    rank (front ++ rest) front.length = (significantTokens front).length := by
  simp [rank, before]

theorem map_ranked_zipIdx (front rest : List Token) :
    (((rest.zipIdx front.length).map fun entry => (entry.2, entry.1)).filter
        (·.2.isSignificant)).map (ranked (front ++ rest)) =
      ((significantTokens rest).zipIdx (significantTokens front).length).map
        fun entry => (entry.2, entry.1) := by
  induction rest generalizing front with
  | nil => rfl
  | cons token rest ih =>
    have ih := ih (front ++ [token])
    rw [List.append_assoc, List.singleton_append, List.length_append, List.length_singleton,
      significantTokens_append] at ih
    have here : ranked (front ++ token :: rest) (front.length, token) =
        ((significantTokens front).length, token) := by
      rw [ranked, rank_append]
    rw [List.zipIdx_cons, List.map_cons]
    cases significant : token.isSignificant <;> simp_all [significantTokens]

/-- The significant tokens of a list, each with its rank, are those of the list without trivia,
each with its index. -/
theorem map_ranked_indexed (tokens : List Token) :
    ((indexed tokens).filter (·.2.isSignificant)).map (ranked tokens) =
      indexed (significantTokens tokens) :=
  map_ranked_zipIdx [] tokens

theorem ranked_mem_indexed {entry : Nat × Token} (member : entry ∈ indexed tokens)
    (significant : entry.2.isSignificant = true) :
    ranked tokens entry ∈ indexed (significantTokens tokens) := by
  rw [← map_ranked_indexed]
  exact List.mem_map_of_mem (List.mem_filter.mpr ⟨member, significant⟩)

/-- Around a significant token, the list without trivia looks the same. -/
theorem placeAt_ranked {entry : Nat × Token} (member : entry ∈ indexed tokens)
    (significant : entry.2.isSignificant = true) :
    placeAt (significantTokens tokens) (ranked tokens entry) = placeAt tokens entry := by
  obtain ⟨index, token⟩ := entry
  obtain ⟨bound, rfl⟩ := List.getElem?_eq_some_iff.mp (mem_indexed_iff.mp member)
  obtain ⟨front, rest, whole, length⟩ :
      ∃ front rest, tokens = front ++ tokens[index] :: rest ∧ front.length = index := by
    refine ⟨tokens.take index, tokens.drop (index + 1), ?_, ?_⟩
    · rw [← List.drop_eq_getElem_cons bound, List.take_append_drop]
    · exact List.length_take_of_le (Nat.le_of_lt bound)
  generalize tokens[index] = token at *
  subst whole length
  have kept : significantTokens (token :: rest) = token :: significantTokens rest :=
    List.filter_cons_of_pos significant
  rw [ranked, rank_append, significantTokens_append, kept, placeAt_append, placeAt_append,
    significantTokens_idem, significantTokens_idem]

section Scans

variable {select select' : Nat × Token → Bool}

/-- A selection that takes no trivia comes to the same on the list without them. -/
theorem filter_indexed (noTrivia : ∀ entry, select entry = true → entry.2.isSignificant = true)
    (same : ∀ entry ∈ indexed tokens, entry.2.isSignificant = true →
      select' (ranked tokens entry) = select entry) :
    (indexed (significantTokens tokens)).filter select' =
      ((indexed tokens).filter select).map (ranked tokens) := by
  rw [← map_ranked_indexed, List.filter_map, List.filter_filter]
  congr 1
  refine List.filter_congr fun entry member => ?_
  cases significant : entry.2.isSignificant with
  | true => simp [same entry member significant]
  | false =>
    have skipped : select entry = false :=
      Bool.eq_false_iff.mpr fun taken => by simp [noTrivia entry taken] at significant
    simp [skipped]

theorem filterMap_indexed {β : Type} {scan scan' : Nat × Token → Option β}
    (noTrivia : ∀ entry, (scan entry).isSome = true → entry.2.isSignificant = true)
    (same : ∀ entry ∈ indexed tokens, entry.2.isSignificant = true →
      scan' (ranked tokens entry) = scan entry) :
    (indexed (significantTokens tokens)).filterMap scan' = (indexed tokens).filterMap scan := by
  rw [← map_ranked_indexed, List.filterMap_map, List.filterMap_filter]
  refine List.filterMap_congr fun entry member => ?_
  cases significant : entry.2.isSignificant with
  | true => simpa using same entry member significant
  | false =>
    have skipped : scan entry = none := by
      rw [← Option.not_isSome_iff_eq_none]
      exact fun taken => by simp [noTrivia entry taken] at significant
    simp [skipped]

end Scans

end Neighbours
end SnippetCheck

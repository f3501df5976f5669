import Mathlib.Data.List.TakeDrop
import SnippetCheck.Token.Neighbours

namespace SnippetCheck

/-- A significant token with all the significant tokens around it: those before it, the nearest
first, and those after it. -/
structure Place where
  before : List Token
  token : Token
  after : List Token

/-- The places of significant tokens that come after others, of which the nearest is the
first. -/
def places (before : List Token) : List Token → List Place
  | [] => []
  | token :: after => ⟨before, token, after⟩ :: places (token :: before) after

namespace Neighbours

/-- The significant tokens before an index, the nearest first. -/
def before (tokens : List Token) (index : Nat) : List Token :=
  (significantTokens (tokens.take index)).reverse

/-- The significant tokens after an index. -/
def after (tokens : List Token) (index : Nat) : List Token :=
  significantTokens (tokens.drop (index + 1))

/-- No token strictly between two indexes satisfies a condition. -/
def NoneBetween (condition : Token → Bool) (tokens : List Token) (first last : Nat) : Prop :=
  ∀ index token, first < index → index < last → tokens[index]? = some token →
    condition token = false

section Steps

variable {tokens : List Token} {index : Nat} {token : Token}

/-- A token stands before the next one, unless it is trivia. -/
theorem before_succ (found : tokens[index]? = some token) :
    before tokens (index + 1) =
      if token.isSignificant then token :: before tokens index else before tokens index := by
  rw [before, List.take_add_one, found, significantTokens_append, List.reverse_append]
  cases significant : token.isSignificant <;> simp [significantTokens, significant, before]

theorem after_eq (found : tokens[index + 1]? = some token) :
    after tokens index =
      if token.isSignificant then token :: after tokens (index + 1)
      else after tokens (index + 1) := by
  obtain ⟨bound, rfl⟩ := List.getElem?_eq_some_iff.mp found
  rw [after, after, List.drop_eq_getElem_cons bound, significantTokens, List.filter_cons]
  rfl

variable {condition : Token → Bool} {first : Nat}

theorem noneBetween_succ_self (condition : Token → Bool) (tokens : List Token) (index : Nat) :
    NoneBetween condition tokens index (index + 1) := by
  intro between token lower upper
  omega

/-- One place further, one token more has to be looked at. -/
theorem noneBetween_succ_iff (order : first < index) (found : tokens[index]? = some token) :
    NoneBetween condition tokens first (index + 1) ↔
      NoneBetween condition tokens first index ∧ condition token = false := by
  constructor
  · intro all
    exact ⟨fun between other lower upper => all between other lower (Nat.lt_succ_of_lt upper),
      all index token order (Nat.lt_succ_self index) found⟩
  · rintro ⟨all, none⟩ between other lower upper there
    rcases Nat.lt_succ_iff_lt_or_eq.mp upper with inside | rfl
    · exact all between other lower inside there
    · rw [found] at there
      cases there
      exact none

end Steps

section Searches

variable {tokens : List Token} {index next : Nat} {token : Token}

/-- The token that is looked back to is the nearest before. -/
theorem previous_eq_head? (tokens : List Token) (index : Nat) :
    previous tokens index = (before tokens index).head? := by
  rw [previous, before, significantTokens, ← List.filter_reverse, List.head?_filter]

/-- The search for the next significant token, told by what stands after the index. -/
theorem nextIndex_cases (tokens : List Token) (index : Nat) :
    (nextIndex tokens index = none ∧ after tokens index = []) ∨
      ∃ next token, nextIndex tokens index = some next ∧ tokens[next]? = some token ∧
        after tokens index = token :: after tokens next := by
  by_cases bound : index + 1 < tokens.length
  · have found := List.getElem?_eq_getElem bound
    have rest : tokens.drop (index + 1) = tokens[index + 1] :: tokens.drop (index + 2) :=
      List.drop_eq_getElem_cons bound
    cases significant : tokens[index + 1].isSignificant with
    | true =>
      refine .inr ⟨index + 1, _, ?_, found, by rw [after_eq found, if_pos significant]⟩
      simp only [nextIndex, rest, List.findIdx?_cons, significant, if_true, Option.map_some,
        Nat.add_zero]
    | false =>
      have skip : nextIndex tokens index = nextIndex tokens (index + 1) := by
        simp only [nextIndex, rest, List.findIdx?_cons, significant, Bool.false_eq_true, if_false,
          Option.map_map]
        congr 1
        funext offset
        simp only [Function.comp_apply]
        omega
      rw [skip, after_eq found, if_neg (by simp [significant])]
      exact nextIndex_cases tokens (index + 1)
  · have rest : tokens.drop (index + 1) = [] := List.drop_eq_nil_of_le (by omega)
    exact .inl ⟨by simp [nextIndex, rest], by simp [after, rest, significantTokens]⟩
termination_by tokens.length - index

/-- The token that is looked ahead to is the nearest behind. -/
theorem next_eq_head? (tokens : List Token) (index : Nat) :
    Neighbours.next tokens index = (after tokens index).head? := by
  rcases nextIndex_cases tokens index with ⟨none, rest⟩ | ⟨next, token, found, there, rest⟩
  · simp [Neighbours.next, none, rest]
  · simp [Neighbours.next, found, there, rest]

theorem nextIndex_bind_next (tokens : List Token) (index : Nat) :
    (nextIndex tokens index).bind (Neighbours.next tokens) = (after tokens index).tail.head? := by
  rcases nextIndex_cases tokens index with ⟨none, rest⟩ | ⟨next, token, found, there, rest⟩
  · simp [none, rest]
  · simp [found, rest, next_eq_head?]

/-- The next index is that of a significant token with none between. -/
theorem nextIndex_eq_some_iff :
    nextIndex tokens index = some next ↔
      index < next ∧ (∃ token, tokens[next]? = some token ∧ token.isSignificant = true) ∧
        NoneBetween Token.isSignificant tokens index next := by
  simp only [nextIndex, Option.map_eq_some_iff, List.findIdx?_eq_some_iff_getElem,
    List.length_drop, List.getElem_drop, Bool.not_eq_true]
  constructor
  · rintro ⟨offset, ⟨bound, significant, trivia⟩, rfl⟩
    refine ⟨by omega, ⟨_, List.getElem?_eq_getElem (by omega), significant⟩, ?_⟩
    intro between token lower upper found
    obtain ⟨inside, rfl⟩ := List.getElem?_eq_some_iff.mp found
    have skipped := trivia (between - (index + 1)) (by omega)
    simpa only [show index + 1 + (between - (index + 1)) = between by omega] using skipped
  · rintro ⟨order, ⟨token, found, significant⟩, gap⟩
    obtain ⟨bound, rfl⟩ := List.getElem?_eq_some_iff.mp found
    have split : index + 1 + (next - (index + 1)) = next := by omega
    refine ⟨next - (index + 1), ⟨by omega, by simpa only [split] using significant, ?_⟩, split⟩
    intro offset upper
    exact gap _ _ (by omega) (by omega) (List.getElem?_eq_getElem (by omega))

/-- The nearest significant token before an index stands at an index of its own. -/
theorem before_cases (bound : index ≤ tokens.length) :
    before tokens index = [] ∨ ∃ last token, last < index ∧ tokens[last]? = some token ∧
      token.isSignificant = true ∧ NoneBetween Token.isSignificant tokens last index ∧
      before tokens index = token :: before tokens last := by
  induction index with
  | zero => exact .inl rfl
  | succ index ih =>
    have found := List.getElem?_eq_getElem bound
    rw [before_succ found]
    cases significant : tokens[index].isSignificant with
    | true =>
      exact .inr ⟨index, _, Nat.lt_succ_self index, found, significant,
        noneBetween_succ_self _ _ _, if_pos rfl⟩
    | false =>
      rw [if_neg (by simp)]
      refine (ih (Nat.le_of_succ_le bound)).imp_right ?_
      rintro ⟨last, token, order, there, kept, gap, same⟩
      exact ⟨last, token, Nat.lt_succ_of_lt order, there, kept,
        (noneBetween_succ_iff order found).mpr ⟨gap, significant⟩, same⟩

/-- Trivia make no difference to what stands before. -/
theorem before_eq_of_gap {first last : Nat} (order : first < last) (bound : last ≤ tokens.length)
    (gap : NoneBetween Token.isSignificant tokens first last) :
    before tokens last = before tokens (first + 1) := by
  induction order with
  | refl => rfl
  | @step last order ih =>
    have found := List.getElem?_eq_getElem bound
    obtain ⟨gap, trivia⟩ := (noneBetween_succ_iff order found).mp gap
    rw [before_succ found, if_neg (by simp [trivia])]
    exact ih (Nat.le_of_succ_le bound) gap

/-- Before the next significant token stands this one, and what stands before this one. -/
theorem before_of_nextIndex (found : tokens[index]? = some token)
    (significant : token.isSignificant = true) (step : nextIndex tokens index = some next) :
    before tokens next = token :: before tokens index := by
  obtain ⟨order, ⟨_, there, _⟩, gap⟩ := nextIndex_eq_some_iff.mp step
  have bound := (List.getElem?_eq_some_iff.mp there).1
  rw [before_eq_of_gap order (Nat.le_of_lt bound) gap, before_succ found, if_pos significant]

theorem nextIndex_of_before {last : Token} {rest : List Token} (found : tokens[next]? = some token)
    (significant : token.isSignificant = true) (preceding : before tokens next = last :: rest) :
    ∃ index, tokens[index]? = some last ∧ last.isSignificant = true ∧
      nextIndex tokens index = some next ∧ before tokens index = rest := by
  have bound := (List.getElem?_eq_some_iff.mp found).1
  rcases before_cases (Nat.le_of_lt bound) with none | ⟨index, _, order, there, kept, gap, same⟩
  · cases none.symm.trans preceding
  · cases same.symm.trans preceding
    exact ⟨index, there, kept, nextIndex_eq_some_iff.mpr ⟨order, ⟨_, found, significant⟩, gap⟩, rfl⟩

end Searches

section Places

/-- The place of a token at an index. -/
def placeAt (tokens : List Token) (entry : Nat × Token) : Place :=
  ⟨before tokens entry.1, entry.2, after tokens entry.1⟩

theorem placeAt_append (front : List Token) (token : Token) (rest : List Token) :
    placeAt (front ++ token :: rest) (front.length, token) =
      ⟨(significantTokens front).reverse, token, significantTokens rest⟩ := by
  simp [placeAt, before, after]

theorem placeAt_zipIdx (front rest : List Token) :
    (((rest.zipIdx front.length).map fun entry => (entry.2, entry.1)).filter
        (·.2.isSignificant)).map (placeAt (front ++ rest)) =
      places (significantTokens front).reverse (significantTokens rest) := by
  induction rest generalizing front with
  | nil => rfl
  | cons token rest ih =>
    have ih := ih (front ++ [token])
    rw [List.append_assoc, List.singleton_append, List.length_append, List.length_singleton,
      significantTokens_append, List.reverse_append] at ih
    rw [List.zipIdx_cons, List.map_cons]
    cases significant : token.isSignificant <;>
      simp_all [significantTokens, places, placeAt_append]

/-- The significant tokens of a list, each found at its index, make up the places. -/
theorem map_placeAt_indexed (tokens : List Token) :
    ((indexed tokens).filter (·.2.isSignificant)).map (placeAt tokens) =
      places [] (significantTokens tokens) :=
  placeAt_zipIdx [] tokens

/-- A scan over all indexes that passes over trivia and otherwise looks at nothing but the place
of the token is a scan over the places. -/
theorem flatMap_indexed {β : Type} {tokens : List Token} {scan : Nat × Token → List β}
    {look : Place → List β}
    (same : ∀ entry ∈ indexed tokens, scan entry =
      if entry.2.isSignificant then look (placeAt tokens entry) else []) :
    (indexed tokens).flatMap scan = (places [] (significantTokens tokens)).flatMap look := by
  rw [← map_placeAt_indexed, List.flatMap_map]
  generalize indexed tokens = entries at same
  induction entries with
  | nil => rfl
  | cons entry entries ih =>
    have ih := ih fun entry member => same entry (List.mem_cons_of_mem _ member)
    rw [List.flatMap_cons, ih, same entry List.mem_cons_self]
    cases significant : entry.2.isSignificant <;> simp [significant]

end Places
end Neighbours
end SnippetCheck

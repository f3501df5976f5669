import SnippetCheck.Proofs.Token.Surroundings

namespace SnippetCheck

/-- Both marks at which the search for parameters gives up. -/
def Token.endsSignature (token : Token) : Bool :=
  token.isSymbol ")" || token.isSymbol ":"

/-- Whether the tokens before a place, the nearest first, have begun a signature and not ended
it. A signature begins with an opening parenthesis that stands one token behind a `def`. -/
def inSignature : List Token → Bool
  | [] => false
  | token :: before =>
    !token.endsSignature &&
      (token.isSymbol "(" && before.tail.head?.any (·.isKeyword "def") || inSignature before)

namespace Token

variable {token : Token}

theorem isSignificant_of_kind {kind : TokenKind} (ofKind : token.kind = kind)
    (noTrivia : kind ≠ .newline ∧ kind ≠ .comment) : token.isSignificant = true := by
  simp [isSignificant, isTrivia, ofKind, noTrivia]

theorem not_endsSignature_of_kind (other : token.kind ≠ .symbol) :
    token.endsSignature = false := by
  simp [endsSignature, isSymbol, is, other]

/-- A token is one thing only. -/
theorem not_is {kind other : TokenKind} {text otherText : String}
    (isThis : token.is kind text = true) (different : kind ≠ other ∨ text ≠ otherText) :
    token.is other otherText = false := by
  obtain ⟨rfl, rfl⟩ := is_iff.mp isThis
  rw [Bool.eq_false_iff]
  intro isOther
  obtain ⟨sameKind, sameText⟩ := is_iff.mp isOther
  exact different.elim (· sameKind) (· sameText)

theorem not_endsSignature_of_mark {mark : String} (isMark : token.isSymbol mark = true)
    (goesOn : mark ≠ ")" ∧ mark ≠ ":") : token.endsSignature = false := by
  rw [endsSignature, isSymbol, isSymbol, not_is isMark (.inr goesOn.1),
    not_is isMark (.inr goesOn.2)]
  rfl

end Token

namespace Neighbours

section Signatures

variable {tokens : List Token} {index opening : Nat} {token : Token}

/-- The token at an index opens the parameter list of a definition. -/
def OpensSignature (tokens : List Token) (opening : Nat) : Prop :=
  (∃ index keyword, tokens[index]? = some keyword ∧ keyword.isKeyword "def" = true ∧
    (nextIndex tokens index).bind (nextIndex tokens) = some opening) ∧
  tokens[opening]?.any (·.isSymbol "(") = true

theorem opensSignature_iff (found : tokens[opening]? = some token) :
    OpensSignature tokens opening ↔ token.isSymbol "(" = true ∧
      (before tokens opening).tail.head?.any (·.isKeyword "def") = true := by
  rw [OpensSignature, and_comm, found, Option.any_some]
  refine and_congr_right fun opens => ?_
  have significant := Token.isSignificant_of_kind (Token.kind_of_isSymbol opens) (by decide)
  constructor
  · rintro ⟨index, keyword, there, isDef, steps⟩
    obtain ⟨middle, step, step'⟩ := Option.bind_eq_some_iff.mp steps
    obtain ⟨-, ⟨name, between, kept⟩, -⟩ := nextIndex_eq_some_iff.mp step
    have kept' := Token.isSignificant_of_kind (Token.kind_of_isKeyword isDef) (by decide)
    simp [before_of_nextIndex between kept step', before_of_nextIndex there kept' step, isDef]
  · intro preceded
    match preceding : before tokens opening with
    | [] => simp [preceding] at preceded
    | [_] => simp [preceding] at preceded
    | name :: keyword :: rest =>
      have isDef : keyword.isKeyword "def" = true := by simpa [preceding] using preceded
      obtain ⟨middle, there, kept, step', preceding'⟩ :=
        nextIndex_of_before found significant preceding
      obtain ⟨index, there', -, step, -⟩ := nextIndex_of_before there kept preceding'
      exact ⟨index, keyword, there', isDef, by rw [step, Option.bind_some, step']⟩

/-- Read backwards from an index, the tokens are in a signature if one was opened and nothing
after its opening parenthesis has ended it. -/
theorem inSignature_before_iff (bound : index ≤ tokens.length) :
    inSignature (before tokens index) = true ↔
      ∃ opening, OpensSignature tokens opening ∧ opening < index ∧
        NoneBetween Token.endsSignature tokens opening index := by
  induction index with
  | zero => simp [before, significantTokens, inSignature]
  | succ index ih =>
    have found := List.getElem?_eq_getElem bound
    have ih := ih (Nat.le_of_succ_le bound)
    have later : (∃ opening, OpensSignature tokens opening ∧ opening < index + 1 ∧
          NoneBetween Token.endsSignature tokens opening (index + 1)) ↔
        OpensSignature tokens index ∨ tokens[index].endsSignature = false ∧
          inSignature (before tokens index) = true := by
      rw [ih]
      constructor
      · rintro ⟨opening, opens, order, within⟩
        rcases Nat.lt_succ_iff_lt_or_eq.mp order with earlier | rfl
        · obtain ⟨within, goesOn⟩ := (noneBetween_succ_iff earlier found).mp within
          exact .inr ⟨goesOn, opening, opens, earlier, within⟩
        · exact .inl opens
      · rintro (opens | ⟨goesOn, opening, opens, order, within⟩)
        · exact ⟨index, opens, Nat.lt_succ_self index, noneBetween_succ_self _ _ _⟩
        · exact ⟨opening, opens, Nat.lt_succ_of_lt order,
            (noneBetween_succ_iff order found).mpr ⟨within, goesOn⟩⟩
    rw [later, opensSignature_iff found, before_succ found]
    by_cases symbol : tokens[index].kind = .symbol
    · have significant := Token.isSignificant_of_kind symbol (by decide)
      rw [if_pos significant, inSignature]
      simp only [Bool.and_eq_true, Bool.or_eq_true, Bool.not_eq_true']
      constructor
      · rintro ⟨goesOn, begins | within⟩
        · exact .inl begins
        · exact .inr ⟨goesOn, within⟩
      · rintro (begins | ⟨goesOn, within⟩)
        · exact ⟨Token.not_endsSignature_of_mark begins.1 (by decide), .inl begins⟩
        · exact ⟨goesOn, .inr within⟩
    · have goesOn := Token.not_endsSignature_of_kind symbol
      have noOpening : tokens[index].isSymbol "(" = false := by
        simp [Token.isSymbol, Token.is, symbol]
      cases tokens[index].isSignificant <;> simp [inSignature, goesOn, noOpening]

theorem mem_indexed_iff : (index, token) ∈ indexed tokens ↔ tokens[index]? = some token := by
  simp [indexed, List.mk_mem_zipIdx_iff_getElem?]

theorem mem_indexed_takeWhile_iff {condition : Token → Bool} :
    (index, token) ∈ ((indexed tokens).drop (opening + 1)).takeWhile (!condition ·.2) ↔
      opening < index ∧ tokens[index]? = some token ∧
        NoneBetween condition tokens opening (index + 1) := by
  rw [List.takeWhile_eq_take_findIdx_not, List.mem_take_iff_getElem]
  simp only [Nat.lt_min, List.lt_findIdx_iff, List.getElem_drop, List.length_drop, indexed,
    List.getElem_map, List.getElem_zipIdx, List.length_map, List.length_zipIdx, Bool.not_not,
    Nat.zero_add, Prod.mk.injEq]
  constructor
  · rintro ⟨offset, ⟨⟨bound, none⟩, -⟩, rfl, rfl⟩
    refine ⟨by omega, List.getElem?_eq_getElem (by omega), ?_⟩
    intro between other lower upper there
    obtain ⟨inside, rfl⟩ := List.getElem?_eq_some_iff.mp there
    have free := none (between - (opening + 1)) (by omega)
    simpa only [show opening + 1 + (between - (opening + 1)) = between by omega] using free
  · rintro ⟨order, found, none⟩
    obtain ⟨bound, rfl⟩ := List.getElem?_eq_some_iff.mp found
    have split : opening + 1 + (index - (opening + 1)) = index := by omega
    have inside : index - (opening + 1) < tokens.length - (opening + 1) := by omega
    refine ⟨index - (opening + 1), ⟨⟨inside, fun offset upper => ?_⟩, inside⟩, split, ?_⟩
    · exact none _ _ (by omega) (by omega) (List.getElem?_eq_getElem (by omega))
    · simp only [split]

theorem mem_parametersAfter_iff {definition : Nat} :
    index ∈ parametersAfter tokens definition ↔
      ∃ opening, (nextIndex tokens definition).bind (nextIndex tokens) = some opening ∧
        tokens[opening]?.any (·.isSymbol "(") = true ∧ opening < index ∧
        NoneBetween Token.endsSignature tokens opening (index + 1) ∧
        ∃ token, tokens[index]? = some token ∧ token.kind = .identifier := by
  have listed (opening : Nat) :
      index ∈ (((indexed tokens).drop (opening + 1)).takeWhile (!Token.endsSignature ·.2)
        |>.filter (·.2.kind == .identifier) |>.map (·.1)) ↔
      opening < index ∧ NoneBetween Token.endsSignature tokens opening (index + 1) ∧
        ∃ token, tokens[index]? = some token ∧ token.kind = .identifier := by
    simp only [List.mem_map, List.mem_filter, beq_iff_eq, Prod.exists, exists_and_right,
      exists_eq_right, mem_indexed_takeWhile_iff]
    grind
  rw [parametersAfter]
  cases (nextIndex tokens definition).bind (nextIndex tokens) with
  | none => simp
  | some opening =>
    dsimp only
    split
    · next opens =>
      simp only [opens, Option.some.injEq, exists_eq_left', true_and]
      exact listed opening
    · next other => simp [other]

/-- The positions of parameters are those of the names in a signature. -/
theorem contains_parameterPositions_iff (found : tokens[index]? = some token)
    (name : token.kind = .identifier) :
    (parameterPositions tokens).contains index = inSignature (before tokens index) := by
  have bound := (List.getElem?_eq_some_iff.mp found).1
  have goesOn : token.endsSignature = false := Token.not_endsSignature_of_kind (by simp [name])
  rw [Bool.eq_iff_iff, inSignature_before_iff (Nat.le_of_lt bound)]
  simp only [parameterPositions, List.contains_iff_mem, List.mem_filter, List.mem_range, bound,
    true_and, parameterIndexes, List.mem_flatMap, Prod.exists, mem_indexed_iff]
  constructor
  · rintro ⟨definition, keyword, there, member⟩
    split at member
    · next isDef =>
      obtain ⟨opening, steps, opens, order, within, -⟩ := mem_parametersAfter_iff.mp member
      exact ⟨opening, ⟨⟨definition, keyword, there, isDef, steps⟩, opens⟩, order,
        ((noneBetween_succ_iff order found).mp within).1⟩
    · cases member
  · rintro ⟨opening, ⟨⟨definition, keyword, there, isDef, steps⟩, opens⟩, order, within⟩
    refine ⟨definition, keyword, there, ?_⟩
    rw [if_pos isDef]
    exact mem_parametersAfter_iff.mpr ⟨opening, steps, opens, order,
      (noneBetween_succ_iff order found).mpr ⟨within, goesOn⟩, token, found, name⟩

end Signatures
end Neighbours
end SnippetCheck

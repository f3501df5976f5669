import SnippetCheck.Grammar.Program
import SnippetCheck.Proofs.Reading.Yields

namespace SnippetCheck.Grammar

open Reader

variable {token : Token} {tokens rest : List Token}

section Lists

variable {α : Type} {item : Reader α}

theorem behindCommas_stop (stops : tokens.head?.any (·.isSymbol ",") = false) :
    behindCommas item tokens = (pure [] : Reader _) tokens := by
  cases tokens with
  | nil => rw [behindCommas]; rfl
  | cons token rest =>
    have noComma : token.isSymbol "," = false := by simpa using stops
    rw [behindCommas, if_neg (by simp [noComma])]
    rfl

/-- One round of the loop as readings in a row, so that what carries over from readings to readings
in a row carries over to the loop. -/
theorem behindCommas_step (comma : token.isSymbol "," = true) :
    behindCommas item (token :: rest) =
      (do
        skip
        let first ← item
        let others ← behindCommas item
        return first :: others : Reader _) (token :: rest) := by
  rw [behindCommas, if_pos comma]
  cases result : (item rest).result with
  | none => simp [bind, skip, result]
  | some first =>
    cases others : (behindCommas item (item rest).rest).result with
    | none => simp [bind, skip, result, others]
    | some found => simp [bind, skip, pure, result, others]

end Lists

section Chains

variable {free : Nat} {operators : List String} {operand : Reader Node} {left : Node}
  {height : Option Nat}

theorem chainFrom_stop (stops : tokens.head?.any (isOperatorOf operators) = false) :
    chainFrom free operators operand left height tokens = (pure left : Reader _) tokens := by
  cases tokens with
  | nil => rw [chainFrom]; rfl
  | cons token rest =>
    have noSign : isOperatorOf operators token = false := by simpa using stops
    rw [chainFrom, if_neg (by simp [noSign])]
    rfl

theorem chainFrom_step (isSign : isOperatorOf operators token = true) :
    chainFrom free operators operand left height (token :: rest) =
      (do
        skip
        let right ← operand
        if free < max (height.getD left.height) right.height + 1 then
          Reader.fail (.nestingTooDeep token.line)
        else
          chainFrom free operators operand (.binary token.text token.line left right)
            (some (max (height.getD left.height) right.height + 1)) : Reader _)
        (token :: rest) := by
  rw [chainFrom, if_pos isSign]
  cases result : (operand rest).result with
  | none => simp [bind, skip, result]
  | some right =>
    by_cases tight : free < max (height.getD left.height) right.height + 1
    · simp [bind, skip, result, tight, Reader.fail]
    · simp [bind, skip, result, tight]

end Chains

section Bodies

variable {stop : Token → Bool} {inner : Reader Node}

theorem block_stop (stops : tokens.head?.all stop = true) :
    block stop inner tokens = (pure [] : Reader _) tokens := by
  cases tokens with
  | nil => rw [block]; rfl
  | cons token rest =>
    have halt : stop token = true := by simpa using stops
    rw [block, if_pos halt]
    rfl

/-- A body in which a statement takes a token at least goes on where the statement stopped. -/
theorem block_step (goesOn : stop token = false)
    (shorter : ∀ node, (inner (token :: rest)).result = some node →
      (inner (token :: rest)).rest.length < (token :: rest).length) :
    block stop inner (token :: rest) =
      (do
        match ← inner.attempt with
        | none => return []
        | some node =>
          let others ← block stop inner
          return node :: others : Reader _) (token :: rest) := by
  rw [block, if_neg (by simp [goesOn])]
  cases result : (inner (token :: rest)).result with
  | none => simp [bind, attempt, pure, result]
  | some node =>
    have shorter : (inner (token :: rest)).rest.length < rest.length + 1 := shorter node result
    cases others : (block stop inner (inner (token :: rest)).rest).result with
    | none => simp [bind, attempt, result, shorter, others]
    | some found => simp [bind, attempt, pure, result, shorter, others]

end Bodies

section Programs

theorem statements_nil (reader : Reader Node) : statements reader [] = ([], []) := by
  rw [statements.eq_def]

/-- Where reading goes on after a statement: where it stopped, but at least one token further. -/
def resumption (statement : Reader Node) (token : Token) (rest : List Token) : List Token :=
  if (statement (token :: rest)).rest.length < (token :: rest).length then
    (statement (token :: rest)).rest
  else rest

theorem resumption_suffix (statement : Reader Node) (token : Token) (rest : List Token) :
    resumption statement token rest <:+ rest := by
  rw [resumption]
  split
  · next shorter =>
    refine (List.suffix_cons_iff.mp (statement (token :: rest)).suffix).resolve_left fun whole => ?_
    simp [whole] at shorter
  · exact List.suffix_rfl

theorem resumption_eq_rest {statement : Reader Node}
    (shorter : (statement (token :: rest)).rest.length < (token :: rest).length) :
    resumption statement token rest = (statement (token :: rest)).rest :=
  if_pos shorter

theorem statements_cons (statement : Reader Node) (token : Token) (rest : List Token) :
    statements statement (token :: rest) =
      ((statement (token :: rest)).result.toList ++
          (statements statement (resumption statement token rest)).1,
        (statement (token :: rest)).faults ++
          (statements statement (resumption statement token rest)).2) := by
  rw [statements, resumption]
  split <;> rfl

/-- A statement that is read without a fault comes first, and reading goes on behind it. -/
theorem statements_of_yields {reader : Reader Node} {node : Node}
    (yields : reader.Yields (token :: tokens) node rest [])
    (shorter : rest.length < (token :: tokens).length) :
    statements reader (token :: tokens) =
      (node :: (statements reader rest).1, (statements reader rest).2) := by
  obtain ⟨result, rfl, silent⟩ := yields
  rw [statements_cons, resumption_eq_rest shorter, result, silent]
  rfl

theorem statements_of_yields_all {reader : Reader Node} {node : Node}
    (yields : reader.Yields (token :: tokens) node [] []) :
    statements reader (token :: tokens) = ([node], []) := by
  rw [statements_of_yields yields (Nat.zero_lt_succ _), statements_nil]

end Programs

end SnippetCheck.Grammar

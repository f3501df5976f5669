import SnippetCheck.Grammar.Expression
import SnippetCheck.Proofs.Reading.Recovery
import SnippetCheck.Proofs.Reading.Yields

namespace SnippetCheck.Grammar

open Reader

/-- Whatever the reader makes of tokens is the phrase, read with `free` levels left. -/
def Reader.Realizes {α : Type} (reader : Reader α) (free : Nat) (phrase : Phrase)
    (trees : α → List Node) : Prop :=
  ∀ ⦃tokens a rest faults⦄, reader.Yields tokens a rest faults →
    Reads free phrase tokens (trees a) rest faults

section Lists

variable {α : Type} {item : Reader α} {free : Nat} {kind : Item} {trees : α → List Node}

theorem behindCommas_realizes (items : item.Realizes free kind.phrase trees) :
    Realizes (behindCommas item) free (.more kind) (·.flatMap trees) := by
  intro tokens found rest faults ⟨result, atRest, atFaults⟩
  fun_induction behindCommas item tokens generalizing found rest faults with
  | case1 =>
    obtain rfl := Option.some.inj result
    exact atRest ▸ atFaults ▸ .noMore
  | case2 => simp at result
  | case3 token rest' comma first suffix a success others =>
    rename_i ih _
    obtain ⟨later, atLater, rfl⟩ := Option.map_eq_some_iff.mp result
    have one := items (yields_of_result success)
    have many := ih atLater rfl rfl
    subst atRest atFaults
    exact .more comma one many
  | case4 =>
    obtain rfl := Option.some.inj result
    exact atRest ▸ atFaults ▸ .noMore

theorem commaSeparated_realizes (items : item.Realizes free kind.phrase trees) :
    (commaSeparated item).Realizes free (.list kind) (·.flatMap trees) := by
  intro tokens found rest faults yields
  simp only [commaSeparated, yields_next_bind] at yields
  split at yields
  · replace yields := yields_bind.mp yields
    obtain ⟨first, middle, before, _, one, yields, rfl⟩ := yields
    replace yields := yields_bind.mp yields
    obtain ⟨others, _, after, _, many, yields, rfl⟩ := yields
    obtain ⟨rfl, rfl, rfl⟩ := yields_pure.mp yields
    simpa using Reads.items (items one) (behindCommas_realizes items many)
  · obtain ⟨rfl, rfl, rfl⟩ := yields_pure.mp yields
    exact .noItems

end Lists

section Operands

variable {inner : Reader Node} {free : Nat}

theorem call_realizes (inside : inner.Realizes free .expression ([·]))
    {callee opening : Token} {tokens rest : List Token} {node : Node} {faults : List Diagnostic}
    (callable : callee.kind = .identifier ∨ callee.isKeyword "print")
    (opens : opening.isSymbol "(")
    (yields : (call inner callee).Yields (opening :: tokens) node rest faults) :
    Reads free .factor (callee :: opening :: tokens) [node] rest faults := by
  simp only [call, symbol, yields_skip_bind, List.tail_cons] at yields
  rw [yields_bind] at yields
  obtain ⟨arguments, _, before, _, list, yields, rfl⟩ := yields
  simp only [yields_expect_bind, yields_pure] at yields
  obtain ⟨closing, _, rfl, closes, rfl, rfl, rfl⟩ := yields
  have enclosed : Reads free (.list .argument) _ _ _ _ := commaSeparated_realizes inside list
  simpa using Reads.call callable opens enclosed closes

theorem factor_realizes (inside : inner.Realizes free .expression ([·])) :
    (factor inner).Realizes free .factor ([·]) := by
  intro tokens node rest faults yields
  simp only [factor, yields_peek_bind] at yields
  cases tokens with
  | nil => simp at yields
  | cons token tokens =>
    simp only [List.head?_cons] at yields
    split at yields
    · next number =>
      simp only [yields_skip_bind, yields_pure, List.tail_cons] at yields
      obtain ⟨rfl, rfl, rfl⟩ := yields
      exact .number number
    split at yields
    · next string =>
      simp only [yields_skip_bind, yields_pure, List.tail_cons] at yields
      obtain ⟨rfl, rfl, rfl⟩ := yields
      exact .string string
    split at yields
    · next identifier =>
      simp only [yields_skip_bind, yields_next_bind, List.tail_cons] at yields
      split at yields
      · next opens =>
        cases tokens with
        | nil => simp at opens
        | cons opening tokens => exact call_realizes inside (.inl identifier) opens yields
      · next alone =>
        obtain ⟨rfl, rfl, rfl⟩ := yields_pure.mp yields
        exact .name identifier (by simpa using alone)
    simp only [yields_second_bind] at yields
    split at yields
    · next print =>
      rw [Bool.and_eq_true] at print
      cases tokens with
      | nil => simp at print
      | cons opening tokens => exact call_realizes inside (.inr print.1) print.2 yields
    split at yields
    · next opens =>
      simp only [symbol, yields_skip_bind, List.tail_cons] at yields
      rw [yields_bind] at yields
      obtain ⟨found, _, before, _, enclosed, yields, rfl⟩ := yields
      simp only [yields_expect_bind, yields_pure] at yields
      obtain ⟨closing, _, rfl, closes, rfl, rfl, rfl⟩ := yields
      simpa using Reads.parenthesized opens (inside enclosed) closes
    · simp at yields

end Operands

section Chains

theorem isOperatorOf_iff {operators : List String} {token : Token} :
    isOperatorOf operators token = true ↔ token.kind = .operator ∧ token.text ∈ operators := by
  simp [isOperatorOf]

variable {free : Nat}

/-- A chain goes on from what it has read so far. The height that it carries along is at every
operator the height of the tree to the left. -/
theorem chainFrom_realizes {level : Level} {operand : Reader Node}
    (operands : operand.Realizes free level.operand ([·]))
    {tokens middle rest : List Token} {left node : Node} {height : Option Nat}
    {before after : List Diagnostic} (read : Reads free (.chain level) tokens [left] middle before)
    (carried : height.getD left.height = left.height)
    (yields : Yields (chainFrom free level.signs operand left height) middle node rest after) :
    Reads free (.chain level) tokens [node] rest (before ++ after) := by
  obtain ⟨result, rfl, rfl⟩ := yields
  fun_induction chainFrom free level.signs operand left height middle generalizing before with
  | case1 left height =>
    obtain rfl := Option.some.inj result
    simpa using read
  | case2 => simp at result
  | case3 => simp at result
  | case4 left height sign middle isSign right suffix operand' success below room others =>
    rename_i ih _
    obtain ⟨kind, text⟩ := isOperatorOf_iff.mp isSign
    have bound : max left.height operand'.height < free := by
      simp only [below, carried] at room
      omega
    have read' := Reads.operation read kind text (operands (yields_of_result success)) bound
    have carried' : below + 1 = (Node.binary sign.text sign.line left operand').height := by
      rw [Node.height_binary]
      simp only [below, carried]
    simpa using ih read' carried' result
  | case5 left height sign middle noSign =>
    obtain rfl := Option.some.inj result
    simpa using read

theorem chain_realizes {level : Level} {operand : Reader Node}
    (operands : operand.Realizes free level.operand ([·])) :
    (chain free level.signs operand).Realizes free (.chain level) ([·]) := by
  intro tokens node rest faults yields
  replace yields := yields_bind.mp yields
  obtain ⟨first, middle, before, after, one, others, rfl⟩ := yields
  exact chainFrom_realizes operands (.operand (operands one)) rfl others

theorem arithmetic_realizes {inner : Reader Node}
    (inside : inner.Realizes free .expression ([·])) :
    (arithmetic free inner).Realizes free (.chain .sum) ([·]) :=
  @chain_realizes free .sum _ (@chain_realizes free .product _ (factor_realizes inside))

theorem comparison_realizes {inner : Reader Node}
    (inside : inner.Realizes free .expression ([·])) :
    (comparison free inner).Realizes (free + 1) .expression ([·]) := by
  intro tokens node rest faults yields
  replace yields := yields_bind.mp yields
  obtain ⟨left, middle, before, _, first, yields, rfl⟩ := yields
  have left := arithmetic_realizes inside first
  replace yields := yields_bind.mp yields
  obtain ⟨sign, after, _, more, accepted, yields, rfl⟩ := yields
  cases sign with
  | none =>
    obtain ⟨-, rfl, rfl⟩ := yields_accept_none.mp accepted
    obtain ⟨rfl, rfl, rfl⟩ := yields_pure.mp yields
    simpa using Reads.arithmetic left
  | some sign =>
    obtain ⟨rfl, isSign, rfl⟩ := yields_accept_some.mp accepted
    obtain ⟨kind, text⟩ := isOperatorOf_iff.mp isSign
    replace yields := yields_bind.mp yields
    obtain ⟨right, _, others, _, second, yields, rfl⟩ := yields
    obtain ⟨rfl, rfl, rfl⟩ := yields_pure.mp yields
    simpa using Reads.comparison left kind text (arithmetic_realizes inside second)

theorem expression_realizes (lastLine : UInt32) (free : Nat) :
    Realizes (expression lastLine free) free .expression ([·]) := by
  induction free with
  | zero =>
    intro tokens node rest faults yields
    exact (yields_fail.mp yields).elim
  | succ free ih => exact comparison_realizes ih

end Chains

end SnippetCheck.Grammar

import SnippetCheck.Proofs.Reading.Loops

namespace SnippetCheck.Grammar

/-- A reading that met the bound on nesting somewhere. -/
def Outcome.TooDeep {α : Type} {tokens : List Token} (outcome : Outcome α tokens) : Prop :=
  ∃ line, .nestingTooDeep line ∈ outcome.faults

namespace Reader

variable {α β : Type} {tokens rest : List Token}

/-- The reading succeeds without a fault, unless it meets the bound on nesting. -/
def Gives (reader : Reader α) (tokens : List Token) (a : α) (rest : List Token) : Prop :=
  reader.Yields tokens a rest [] ∨ (reader tokens).TooDeep

/-- A reading that has gone too deep stays so, whatever was to follow. -/
theorem tooDeep_bind {reader : Reader α} (next : α → Reader β)
    (deep : (reader tokens).TooDeep) : ((reader >>= next) tokens).TooDeep := by
  obtain ⟨line, member⟩ := deep
  cases result : (reader tokens).result with
  | none => exact ⟨line, by rwa [(bind_of_none next result).2.2]⟩
  | some a =>
    rw [Outcome.TooDeep, (bind_of_some next result).2.2]
    exact ⟨line, List.mem_append_left _ member⟩

/-- What is given first is handed to what follows. -/
theorem Gives.bind {reader : Reader α} {next : α → Reader β} {a : α} {b : β}
    {middle : List Token} (first : reader.Gives tokens a middle)
    (second : (next a).Gives middle b rest) : (reader >>= next).Gives tokens b rest := by
  rcases first with first | deep
  · rcases second with second | ⟨line, member⟩
    · exact .inl (yields_bind.mpr ⟨a, middle, [], [], first, second, rfl⟩)
    · obtain ⟨result, rfl, -⟩ := first
      right
      rw [Outcome.TooDeep, (bind_of_some next result).2.2]
      exact ⟨line, List.mem_append_right _ member⟩
  · exact .inr (tooDeep_bind next deep)

theorem Gives.of_eq {reader reader' : Reader α} {a : α} (same : reader tokens = reader' tokens)
    (given : reader'.Gives tokens a rest) : reader.Gives tokens a rest := by
  rw [Gives, Yields, same]
  exact given

theorem gives_pure (a : α) : (pure a : Reader α).Gives tokens a tokens :=
  .inl ⟨rfl, rfl, rfl⟩

theorem gives_peek : peek.Gives tokens tokens.head? tokens :=
  .inl ⟨rfl, rfl, rfl⟩

theorem gives_next (condition : Token → Bool) :
    (next condition).Gives tokens (tokens.head?.any condition) tokens :=
  .inl ⟨rfl, rfl, rfl⟩

theorem gives_second (condition : Token → Bool) :
    (second condition).Gives tokens (tokens.tail.head?.any condition) tokens :=
  .inl ⟨rfl, rfl, rfl⟩

theorem gives_skip {token : Token} : skip.Gives (token :: rest) () rest :=
  .inl ⟨rfl, rfl, rfl⟩

theorem gives_expect {expected : String} {condition : Token → Bool} {token : Token}
    (fits : condition token = true) :
    (expect expected condition).Gives (token :: rest) token rest :=
  .inl (yields_expect.mpr ⟨rfl, fits, rfl⟩)

theorem gives_accept_some {condition : Token → Bool} {token : Token}
    (fits : condition token = true) :
    (accept condition).Gives (token :: rest) (some token) rest :=
  .inl (yields_accept_some.mpr ⟨rfl, fits, rfl⟩)

theorem gives_accept_none {condition : Token → Bool}
    (missing : tokens.head?.any condition = false) :
    (accept condition).Gives tokens none tokens :=
  .inl (yields_accept_none.mpr ⟨missing, rfl, rfl⟩)

theorem gives_attempt {reader : Reader α} {a : α} (given : reader.Gives tokens a rest) :
    reader.attempt.Gives tokens (some a) rest := by
  rcases given with ⟨result, rfl, silent⟩ | deep
  · exact .inl ⟨congrArg some result, rfl, silent⟩
  · exact .inr deep

section Lists

variable {item : Reader α}

theorem gives_noMore (stops : tokens.head?.any (·.isSymbol ",") = false) :
    Gives (behindCommas item) tokens [] tokens :=
  .of_eq (behindCommas_stop stops) (gives_pure [])

/-- A comma and an item are given before the others. -/
theorem gives_more {comma : Token} {a : α} {others : List α} {middle : List Token}
    (isComma : comma.isSymbol "," = true) (one : item.Gives tokens a middle)
    (many : Gives (behindCommas item) middle others rest) :
    Gives (behindCommas item) (comma :: tokens) (a :: others) rest :=
  .of_eq (behindCommas_step isComma) (gives_skip.bind (one.bind (many.bind (gives_pure _))))

theorem gives_noItems {closing : Token} (closes : closing.isSymbol ")" = true) :
    (commaSeparated item).Gives (closing :: rest) [] (closing :: rest) := by
  refine (gives_next _).bind ?_
  simp only [List.head?_cons, Option.any_some, closes, Bool.not_true]
  exact gives_pure _

/-- A list that does not close at once has a first item. -/
theorem gives_items {first : Token} {a : α} {others : List α} {middle : List Token}
    (opens : first.isSymbol ")" = false) (one : item.Gives (first :: tokens) a middle)
    (many : Gives (behindCommas item) middle others rest) :
    (commaSeparated item).Gives (first :: tokens) (a :: others) rest := by
  refine (gives_next _).bind ?_
  simp only [List.head?_cons, Option.any_some, opens, Bool.not_false, if_true]
  exact one.bind (many.bind (gives_pure _))

end Lists

end Reader

open Reader

section Chains

variable {free : Nat} {operators : List String} {operand : Reader Node}

/-- Two readings that come to the same, perhaps from different tokens. -/
def Outcome.Same {α : Type} {tokens tokens' : List Token} (outcome : Outcome α tokens)
    (outcome' : Outcome α tokens') : Prop :=
  outcome.result = outcome'.result ∧ outcome.rest = outcome'.rest ∧
    outcome.faults = outcome'.faults

/-- Reading a chain leads to `left` with `middle` to go: what comes of it is what comes of going
on from there, unless the bound on nesting is met. -/
def Leads (free : Nat) (operators : List String) (operand : Reader Node) (tokens : List Token)
    (left : Node) (middle : List Token) : Prop :=
  (∃ height, (chain free operators operand tokens).Same
    (chainFrom free operators operand left height middle)) ∨
  (chain free operators operand tokens).TooDeep

/-- The first operand leads into the chain. -/
theorem Leads.first {tokens middle : List Token} {node : Node}
    (gives : operand.Gives tokens node middle) : Leads free operators operand tokens node middle := by
  rcases gives with ⟨result, rfl, silent⟩ | deep
  · obtain ⟨sameResult, sameRest, sameFaults⟩ :=
      bind_of_some (fun first => chainFrom free operators operand first none) result
    rw [silent, List.nil_append] at sameFaults
    exact .inl ⟨none, sameResult, sameRest, sameFaults⟩
  · exact .inr (tooDeep_bind _ deep)

/-- One operator with its right operand takes a chain a step further. -/
theorem chainFrom_sign {left right : Node} {height : Option Nat} {sign : Token}
    {middle rest : List Token} (isSign : isOperatorOf operators sign = true)
    (gives : operand.Gives middle right rest) :
    (∃ height', (chainFrom free operators operand left height (sign :: middle)).Same
      (chainFrom free operators operand (.binary sign.text sign.line left right) height' rest)) ∨
    (chainFrom free operators operand left height (sign :: middle)).TooDeep := by
  unfold Outcome.Same Outcome.TooDeep
  rw [chainFrom]
  simp only [isSign, if_true]
  rcases gives with ⟨result, rfl, silent⟩ | ⟨line, member⟩
  · split
    · next failure => simp [result] at failure
    · next node success =>
      obtain rfl := Option.some.inj (result.symm.trans success)
      split
      · exact .inr ⟨sign.line, by simp⟩
      · exact .inl ⟨_, rfl, rfl, by rw [silent]; rfl⟩
  · right
    split
    · exact ⟨line, member⟩
    split
    · exact ⟨line, List.mem_append_left _ member⟩
    · exact ⟨line, List.mem_append_left _ member⟩

/-- A sign and an operand lead further, with the tree on the left. -/
theorem Leads.next {tokens middle rest : List Token} {left right : Node} {sign : Token}
    (leads : Leads free operators operand tokens left (sign :: middle))
    (isSign : isOperatorOf operators sign = true) (gives : operand.Gives middle right rest) :
    Leads free operators operand tokens (.binary sign.text sign.line left right) rest := by
  rcases leads with ⟨height, sameResult, sameRest, sameFaults⟩ | deep
  · have step := @chainFrom_sign free operators operand left right height sign _ _ isSign gives
    rcases step with ⟨height', sameResult', sameRest', sameFaults'⟩ | ⟨line, member⟩
    · exact .inl ⟨height', sameResult.trans sameResult', sameRest.trans sameRest',
        sameFaults.trans sameFaults'⟩
    · exact .inr ⟨line, sameFaults ▸ member⟩
  · exact .inr deep

/-- Where no sign follows, the chain is given. -/
theorem Leads.gives {tokens rest : List Token} {node : Node}
    (leads : Leads free operators operand tokens node rest)
    (stops : rest.head?.any (isOperatorOf operators) = false) :
    (chain free operators operand).Gives tokens node rest := by
  rcases leads with ⟨height, sameResult, sameRest, sameFaults⟩ | deep
  · rw [chainFrom_stop stops] at sameResult sameRest sameFaults
    exact .inl ⟨sameResult, sameRest, sameFaults⟩
  · exact .inr deep

end Chains

end SnippetCheck.Grammar

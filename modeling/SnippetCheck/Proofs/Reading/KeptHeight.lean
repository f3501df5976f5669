import SnippetCheck.Proofs.Reading.Loops

namespace SnippetCheck.Grammar

open Reader

/-- A chain with no height kept from one operator to the next: that of the tree on the left is
measured anew each time. -/
def measuredChainFrom (free : Nat) (operators : List String) (operand : Reader Node)
    (left : Node) : Reader Node
  | [] => ⟨some left, [], [], List.suffix_refl []⟩
  | operator :: rest =>
    if isOperatorOf operators operator then
      let right := operand rest
      have suffix := right.suffix.trans (List.suffix_cons operator rest)
      match right.result with
      | none => ⟨none, right.rest, right.faults, suffix⟩
      | some node =>
        if free < max left.height node.height + 1 then
          ⟨none, right.rest, right.faults ++ [.nestingTooDeep operator.line], suffix⟩
        else
          let others := measuredChainFrom free operators operand
            (.binary operator.text operator.line left node) right.rest
          ⟨others.result, others.rest, right.faults ++ others.faults,
            others.suffix.trans suffix⟩
    else ⟨some left, operator :: rest, [], List.suffix_refl _⟩
termination_by tokens => tokens.length
decreasing_by exact Nat.lt_succ_of_le right.suffix.length_le

def measuredChain (free : Nat) (operators : List String) (operand : Reader Node) :
    Reader Node := do
  let first ← operand
  measuredChainFrom free operators operand first

variable {free : Nat} {operators : List String} {operand : Reader Node} {tokens : List Token}

/-- A height that is kept is used in place of one that is measured, and does for it. -/
theorem chainFrom_eq_measured {left : Node} {height : Option Nat}
    (carried : height.getD left.height = left.height) (tokens : List Token) :
    chainFrom free operators operand left height tokens =
      measuredChainFrom free operators operand left tokens := by
  fun_induction chainFrom free operators operand left height tokens with
  | case1 => rw [measuredChainFrom]
  | case2 left height sign rest isSign right suffix failed =>
    have failed : (operand rest).result = none := failed
    simp [measuredChainFrom, isSign, failed, right]
  | case3 left height sign rest isSign right suffix node found below tight =>
    have found : (operand rest).result = some node := found
    simp only [below, carried] at tight
    simp [measuredChainFrom, isSign, found, tight, right]
  | case4 left height sign rest isSign right suffix node found below room others ih =>
    have found : (operand rest).result = some node := found
    simp only [below, carried] at room
    have grown : (Node.binary sign.text sign.line left node).height = below + 1 := by
      rw [Node.height_binary]
      simp only [below, carried]
    simp [measuredChainFrom, isSign, found, room, right, others, ih grown.symm]
  | case5 left height sign rest noSign => simp [measuredChainFrom, noSign]

theorem chain_eq_measured : chain free operators operand = measuredChain free operators operand :=
  congrArg (operand >>= ·) (funext fun _ => funext fun _ => chainFrom_eq_measured rfl _)

/-- A reading that has these faults to show and then goes on as another one. -/
structure Outcome.Resumes {α : Type} {tokens rest : List Token} (whole : Outcome α tokens)
    (before : List Diagnostic) (part : Outcome α rest) : Prop where
  result : whole.result = part.result
  rest : whole.rest = part.rest
  faults : whole.faults = before ++ part.faults

/-- How a chain stands when it looks for the next operator: the tree on the left, the height that
is kept of it, and the tokens that are left. -/
structure ChainState where
  left : Node
  height : Option Nat
  rest : List Token

/-- The chain comes to stand so, with these faults on the way: behind its first operand, and then
behind every operand that an operator joins to the tree. -/
inductive ChainReach (free : Nat) (operators : List String) (operand : Reader Node)
    (tokens : List Token) : ChainState → List Diagnostic → Prop
  | first {node} : (operand tokens).result = some node →
      ChainReach free operators operand tokens ⟨node, none, (operand tokens).rest⟩
        (operand tokens).faults
  | next {left height sign rest faults right} :
      ChainReach free operators operand tokens ⟨left, height, sign :: rest⟩ faults →
      isOperatorOf operators sign = true → (operand rest).result = some right →
      max (height.getD left.height) right.height + 1 ≤ free →
      ChainReach free operators operand tokens
        ⟨.binary sign.text sign.line left right,
          some (max (height.getD left.height) right.height + 1), (operand rest).rest⟩
        (faults ++ (operand rest).faults)

namespace ChainReach

variable {state : ChainState} {faults : List Diagnostic}

theorem carried (reach : ChainReach free operators operand tokens state faults) :
    state.height.getD state.left.height = state.left.height := by
  induction reach with
  | first => rfl
  | @next left height sign rest faults right previous isSign found room ih =>
    have kept : height.getD left.height = left.height := ih
    rw [Option.getD_some, Node.height_binary, kept]

/-- A height that is kept is never another than that of the tree, and has been checked. -/
theorem height_eq (reach : ChainReach free operators operand tokens state faults) :
    ∀ height ∈ state.height, height = state.left.height ∧ height ≤ free := by
  have carried := reach.carried
  cases reach with
  | first => nofun
  | next previous isSign found room =>
    rintro _ ⟨⟩
    exact ⟨carried, room⟩

/-- What comes of the whole chain is what comes of the loop from here on. -/
theorem resumes (reach : ChainReach free operators operand tokens state faults) :
    (chain free operators operand tokens).Resumes faults
      (chainFrom free operators operand state.left state.height state.rest) := by
  induction reach with
  | first found =>
    obtain ⟨result, atRest, atFaults⟩ := bind_of_some _ found
    exact ⟨result, atRest, atFaults⟩
  | @next left height sign rest faults right previous isSign found room ih =>
    obtain ⟨result, atRest, atFaults⟩ := ih
    obtain ⟨nextResult, nextRest, nextFaults⟩ := bind_of_some
      (fun right => if free < max (height.getD left.height) right.height + 1 then
          Reader.fail (.nestingTooDeep sign.line)
        else chainFrom free operators operand (.binary sign.text sign.line left right)
          (some (max (height.getD left.height) right.height + 1))) found
    rw [if_neg (Nat.not_lt.mpr room)] at nextResult nextRest nextFaults
    rw [chainFrom_step isSign] at result atRest atFaults
    refine ⟨result.trans nextResult, atRest.trans nextRest, ?_⟩
    exact (atFaults.trans (congrArg (faults ++ ·) nextFaults)).trans (List.append_assoc ..).symm

end ChainReach

/-- A tree that the loop has built itself is no higher than the levels that are free. -/
theorem chainFrom_height_le {left node : Node} {height : Option Nat}
    (carried : height.getD left.height = left.height)
    (found : (chainFrom free operators operand left height tokens).result = some node) :
    if tokens.head?.any (isOperatorOf operators) then node.height ≤ free else node = left := by
  fun_induction chainFrom free operators operand left height tokens with
  | case1 => simpa using found.symm
  | case2 => cases found
  | case3 => cases found
  | case4 left height sign rest isSign right suffix operand' read below room others ih =>
    have grown : (Node.binary sign.text sign.line left operand').height = below + 1 := by
      rw [Node.height_binary]
      simp only [below, carried]
    have later := ih grown.symm found
    rw [List.head?_cons, Option.any_some, if_pos isSign]
    split at later
    · exact later
    · rw [later, grown]
      exact Nat.not_lt.mp room
  | case5 left height sign rest noSign =>
    simpa [noSign] using found.symm

/-- The height that a chain keeps is that of its tree wherever the loop stands, so it might as well
be measured; and a chain of which the loop has built something fits into the levels that are free
where it begins. An operand that no operator follows is handed on as it is. -/
theorem chain_keeps_height (depth : Nat) (operators : List String) (operand : Reader Node)
    (tokens : List Token) :
    let free := maxNestingDepth - depth
    (∀ state faults, ChainReach free operators operand tokens state faults →
      (chain free operators operand tokens).Resumes faults
        (chainFrom free operators operand state.left state.height state.rest) ∧
      ∀ height ∈ state.height, height = state.left.height ∧ depth + height ≤ maxNestingDepth) ∧
    chain free operators operand tokens = measuredChain free operators operand tokens ∧
    ∀ node, (chain free operators operand tokens).result = some node →
      if (operand tokens).rest.head?.any (isOperatorOf operators) then
        depth + node.height ≤ maxNestingDepth
      else (operand tokens).result = some node := by
  intro free
  have fits (node : Node) (within : node.height ≤ free) : depth + node.height ≤ maxNestingDepth := by
    have positive := node.height_pos
    omega
  refine ⟨fun state faults reach => ⟨reach.resumes, fun height kept => ?_⟩,
    congrFun chain_eq_measured tokens, fun node found => ?_⟩
  · obtain ⟨rfl, within⟩ := reach.height_eq height kept
    exact ⟨rfl, fits _ within⟩
  · cases read : (operand tokens).result with
    | none => simp [(bind_of_none _ read).1, chain] at found
    | some first =>
      have built := chainFrom_height_le rfl ((bind_of_some _ read).1.symm.trans found)
      split
      · next follows =>
        rw [if_pos follows] at built
        exact fits node built
      · next follows =>
        rw [if_neg follows] at built
        rw [built]

/-- A product of three numbers, to be read in two rounds. -/
def productTokens : List Token :=
  [⟨.number, "2", 1, 1⟩, ⟨.operator, "*", 1, 3⟩, ⟨.number, "3", 1, 5⟩, ⟨.operator, "/", 1, 7⟩,
   ⟨.number, "4", 1, 9⟩]

def productTree : Node :=
  .binary "/" 1 (.binary "*" 1 (.leaf .number "2" 1) (.leaf .number "3" 1)) (.leaf .number "4" 1)

theorem chain_keeps_height_product :
    let operand := factor (expression 1 255)
    ChainReach (maxNestingDepth - 1) termOperators operand productTokens
        ⟨productTree, some 3, []⟩ [] ∧
      3 = productTree.height ∧
      (chain (maxNestingDepth - 1) termOperators operand productTokens).result =
        some productTree ∧
      (operand productTokens).rest.head?.any (isOperatorOf termOperators) = true ∧
      1 + productTree.height ≤ maxNestingDepth := by
  intro operand
  obtain ⟨rounds, -, bound⟩ := chain_keeps_height 1 termOperators operand productTokens
  have first : (operand productTokens).result = some (.leaf .number "2" 1) := rfl
  have second : (operand (productTokens.drop 2)).result = some (.leaf .number "3" 1) := rfl
  have third : (operand (productTokens.drop 4)).result = some (.leaf .number "4" 1) := rfl
  have two : 2 ≤ maxNestingDepth - 1 := by decide
  have three : 3 ≤ maxNestingDepth - 1 := by decide
  have start : ChainReach (maxNestingDepth - 1) termOperators operand productTokens
      ⟨.leaf .number "2" 1, none, productTokens.drop 1⟩ [] := .first first
  have once : ChainReach (maxNestingDepth - 1) termOperators operand productTokens
      ⟨.binary "*" 1 (.leaf .number "2" 1) (.leaf .number "3" 1), some 2,
        productTokens.drop 3⟩ [] := .next start rfl second two
  have reach : ChainReach (maxNestingDepth - 1) termOperators operand productTokens
      ⟨productTree, some 3, []⟩ [] := .next once rfl third three
  obtain ⟨resumes, kept⟩ := rounds _ _ reach
  have result := resumes.result.trans (congrArg Outcome.result (chainFrom_stop rfl))
  have follows : (operand productTokens).rest.head?.any (isOperatorOf termOperators) = true := rfl
  have within := bound productTree result
  rw [if_pos follows] at within
  exact ⟨reach, (kept 3 rfl).1, result, follows, within⟩

end SnippetCheck.Grammar

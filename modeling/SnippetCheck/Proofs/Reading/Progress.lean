import SnippetCheck.Proofs.Language.Soundness
import SnippetCheck.Proofs.Reading.Statement
import SnippetCheck.Token.Lexer

namespace SnippetCheck.Grammar

/-- Where the reading of a program stands: its tokens, how many of them are behind, how many
levels of nesting are taken, and the faults found so far. -/
structure Standing where
  tokens : List Token
  position : Nat
  depth : Nat
  faults : List Diagnostic

/-- What a round of reading comes to: the tokens it took or passed over, the statement it found,
and the faults it left. -/
structure Round where
  taken : List Token
  found : Option Node
  faults : List Diagnostic

namespace Standing

/-- The tokens that are still ahead. -/
def ahead (standing : Standing) : List Token :=
  standing.tokens.drop standing.position

/-- A program of which nothing has been read. The faults in its structure are known before. -/
def start (tokens : List Token) : Standing :=
  ⟨tokens, 0, 0, structuralFaults tokens⟩

/-- The statement reader at the nesting that has been reached. -/
def reader (standing : Standing) : Reader Node :=
  Grammar.statement (lastLine standing.tokens) (maxNestingDepth - standing.depth)

/-- Read one statement. The reader is told how many levels are free and sees neither the place nor
the faults found before; tokens, depth and earlier faults are carried over as they are. -/
def statement (standing : Standing) : Option Node × Standing :=
  let outcome := standing.reader standing.ahead
  (outcome.result,
    { standing with
      position := standing.tokens.length - outcome.rest.length
      faults := standing.faults ++ outcome.faults })

/-- Read one statement, and pass over a token if that has taken none. -/
def round (standing : Standing) : Option Node × Standing :=
  let next := standing.statement.2
  (standing.statement.1,
    if next.position = standing.position then { next with position := standing.position + 1 }
    else next)

/-- Reading a statement leads from one standing to another. The first two fields and `kept` say what
is carried over. The others say what the reading itself does, in all its rules: no token is read
again, what is found has taken one, and whatever is not made part of the tree leaves a fault, for a
reading without one follows the grammar. -/
structure Advances (before : Standing) (found : Option Node) (after : Standing) : Prop where
  tokens : after.tokens = before.tokens
  depth : after.depth = before.depth
  forward : before.position ≤ after.position
  within : after.position ≤ before.tokens.length
  kept : before.faults <+: after.faults
  progress : ∀ node, found = some node → before.position < after.position
  recorded : found = none → before.faults.length < after.faults.length
  faultless : after.faults = before.faults →
    ∃ node, found = some node ∧ Derives .statement before.ahead [node] after.ahead

/-- Rounds until no token is ahead. -/
inductive Runs : Standing → List Round → Standing → Prop
  | done {standing : Standing} : standing.tokens.length ≤ standing.position →
      Runs standing [] standing
  | round {standing last : Standing} {rounds : List Round} :
      standing.position < standing.tokens.length → Runs standing.round.2 rounds last →
      Runs standing
        (⟨standing.ahead.take (standing.round.2.position - standing.position), standing.round.1,
          standing.round.2.faults.drop standing.faults.length⟩ :: rounds) last

section Steps

variable (standing : Standing)

theorem length_ahead : standing.ahead.length = standing.tokens.length - standing.position :=
  List.length_drop

/-- Behind a statement lies what its reader has left. -/
theorem statement_ahead :
    standing.statement.2.ahead = (standing.reader standing.ahead).rest := by
  have suffix := (standing.reader standing.ahead).suffix.trans (List.drop_suffix _ _)
  exact (List.suffix_iff_eq_drop.mp suffix).symm

/-- What reading one statement does, at whatever place and depth. That tokens, depth and earlier
faults stay holds by the definition of the step, which hands them on; progress, the fault of a
failure and the derivation behind a silent success are facts about the rules. -/
theorem statement_advances (inside : standing.position < standing.tokens.length) :
    standing.Advances standing.statement.1 standing.statement.2 := by
  have shorter := (standing.reader standing.ahead).suffix.length_le
  have length := standing.length_ahead
  refine ⟨rfl, rfl, ?_, Nat.sub_le _ _, List.prefix_append _ _, ?_, ?_, ?_⟩
  · change standing.position ≤ standing.tokens.length - _
    omega
  · intro node found
    have taken : (standing.reader standing.ahead).rest.length < _ := statement_shorter found
    change standing.position < standing.tokens.length - _
    omega
  · intro failed
    have loud := statement_loud _ _ _ failed
    change _ < (standing.faults ++ (standing.reader standing.ahead).faults).length
    rw [List.length_append]
    exact Nat.lt_add_of_pos_right (List.length_pos_iff.mpr loud)
  · intro same
    have silent : (standing.reader standing.ahead).faults = [] := List.append_right_eq_self.mp same
    cases result : (standing.reader standing.ahead).result with
    | none => exact absurd silent (statement_loud _ _ _ result)
    | some node =>
      refine ⟨node, result, ?_⟩
      rw [statement_ahead]
      exact (statement_realizes _ _ (Reader.yields_of_result result)).derives silent

theorem round_tokens : standing.round.2.tokens = standing.tokens := by
  rw [round]
  split <;> rfl

theorem round_depth : standing.round.2.depth = standing.depth := by
  rw [round]
  split <;> rfl

theorem round_reader : standing.round.2.reader = standing.reader := by
  rw [reader, round_tokens, round_depth]
  rfl

theorem round_faults :
    standing.round.2.faults = standing.faults ++ (standing.reader standing.ahead).faults := by
  rw [round]
  split <;> rfl

/-- A round takes a token at least: where the statement has taken none, one is passed over. -/
theorem round_progress (inside : standing.position < standing.tokens.length) :
    standing.position < standing.round.2.position ∧
      standing.round.2.position ≤ standing.tokens.length := by
  have step := standing.statement_advances inside
  have forward := step.forward
  have within := step.within
  simp only [round]
  split
  · exact ⟨Nat.lt_succ_self _, inside⟩
  · exact ⟨by omega, within⟩

/-- A round leaves what the loop over the program goes on with. -/
theorem round_ahead {token : Token} {rest : List Token} (atHead : standing.ahead = token :: rest) :
    standing.round.2.ahead = resumption standing.reader token rest := by
  have length := standing.length_ahead
  have shorter := (standing.reader standing.ahead).suffix.length_le
  have stays : standing.statement.2.position = standing.position ↔
      ¬ (standing.reader (token :: rest)).rest.length < (token :: rest).length := by
    rw [← atHead]
    change standing.tokens.length - _ = _ ↔ _
    rw [atHead, List.length_cons] at length
    rw [atHead, List.length_cons] at shorter
    rw [atHead, List.length_cons]
    omega
  rw [round, resumption]
  by_cases shorter : (standing.reader (token :: rest)).rest.length < (token :: rest).length
  · rw [if_pos shorter]
    dsimp only
    rw [if_neg fun same => stays.mp same shorter, statement_ahead, atHead]
  · rw [if_neg shorter]
    dsimp only
    rw [if_pos (stays.mpr shorter)]
    change standing.tokens.drop (standing.position + 1) = rest
    rw [← List.drop_drop, ← ahead, atHead]
    rfl

end Steps

section Runs

variable {standing last : Standing} {rounds : List Round}

/-- The loop over a program ends, for a round leaves less ahead. -/
theorem exists_runs (standing : Standing) : ∃ rounds last, standing.Runs rounds last := by
  by_cases inside : standing.position < standing.tokens.length
  · have progress := (standing.round_progress inside).1
    have tokens := standing.round_tokens
    obtain ⟨rounds, last, runs⟩ := exists_runs standing.round.2
    exact ⟨_, last, .round inside runs⟩
  · exact ⟨[], standing, .done (Nat.le_of_not_lt inside)⟩
termination_by standing.tokens.length - standing.position
decreasing_by
  rw [tokens]
  omega

theorem Runs.depth (runs : standing.Runs rounds last) : last.depth = standing.depth := by
  induction runs with
  | done => rfl
  | round _ _ ih => rw [ih, round_depth]

/-- The rounds share the tokens among them, in their order, and none goes without. -/
theorem Runs.taken (runs : standing.Runs rounds last) :
    rounds.flatMap Round.taken = standing.ahead ∧ ∀ round ∈ rounds, round.taken ≠ [] := by
  induction runs with
  | done behind => exact ⟨(List.drop_eq_nil_of_le behind).symm, by simp⟩
  | @round standing last rounds inside runs ih =>
    obtain ⟨progress, within⟩ := standing.round_progress inside
    have onwards : standing.round.2.ahead =
        standing.ahead.drop (standing.round.2.position - standing.position) := by
      rw [ahead, ahead, round_tokens, List.drop_drop, Nat.add_sub_cancel' (Nat.le_of_lt progress)]
    refine ⟨?_, List.forall_mem_cons.mpr ⟨?_, ih.2⟩⟩
    · rw [List.flatMap_cons, ih.1, onwards, List.take_append_drop]
    · rw [ne_eq, ← List.length_eq_zero_iff, List.length_take, length_ahead]
      omega

/-- There are no more rounds than tokens. -/
theorem Runs.length_le (runs : standing.Runs rounds last) :
    rounds.length ≤ standing.ahead.length := by
  induction runs with
  | done => exact Nat.zero_le _
  | @round standing last rounds inside runs ih =>
    have progress := (standing.round_progress inside).1
    rw [length_ahead, round_tokens] at ih
    rw [length_ahead, List.length_cons]
    omega

/-- Every round adds its faults, and one without a statement has some. -/
theorem Runs.faults (runs : standing.Runs rounds last) :
    last.faults = standing.faults ++ rounds.flatMap Round.faults ∧
      ∀ round ∈ rounds, round.found = none → round.faults ≠ [] := by
  induction runs with
  | done => exact ⟨(List.append_nil _).symm, by simp⟩
  | @round standing last rounds inside runs ih =>
    have left : standing.round.2.faults.drop standing.faults.length =
        (standing.reader standing.ahead).faults := by
      rw [round_faults, List.drop_left]
    refine ⟨?_, List.forall_mem_cons.mpr ⟨fun failed => ?_, ih.2⟩⟩
    · rw [List.flatMap_cons, left, ih.1, round_faults, List.append_assoc]
    · rw [left]
      exact statement_loud _ _ _ failed

/-- The loop finds the statements of the tokens ahead and adds their faults. -/
theorem Runs.statements (runs : standing.Runs rounds last) :
    Grammar.statements standing.reader standing.ahead =
      (rounds.filterMap Round.found, rounds.flatMap Round.faults) := by
  induction runs with
  | @done standing behind =>
    rw [ahead, List.drop_eq_nil_of_le behind, statements_nil]
    rfl
  | @round standing last rounds inside runs ih =>
    cases atHead : standing.ahead with
    | nil =>
      have length := standing.length_ahead
      simp only [atHead, List.length_nil] at length
      omega
    | cons token rest =>
      have found : standing.round.1 = (standing.reader (token :: rest)).result := by
        rw [← atHead]
        rfl
      rw [round_reader, standing.round_ahead atHead] at ih
      rw [statements_cons, ih, round_faults, List.drop_left, atHead, List.flatMap_cons, found]
      cases (standing.reader (token :: rest)).result <;> rfl

end Runs
end Standing

/-- Reading a statement makes progress wherever it begins, at every depth of nesting, and what it
gives up it records. So the loop over a program ends after at most as many rounds as there are
tokens, with every token taken in one round, and a round without a statement has a fault to
show. -/
theorem reading_progresses :
    (∀ standing : Standing, standing.position < standing.tokens.length →
      standing.Advances standing.statement.1 standing.statement.2) ∧
    ∀ tokens, ∃ rounds last, (Standing.start (significantTokens tokens)).Runs rounds last ∧
      rounds.length ≤ (significantTokens tokens).length ∧
      rounds.flatMap Round.taken = significantTokens tokens ∧
      (∀ round ∈ rounds, round.taken ≠ [] ∧ (round.found = none → round.faults ≠ [])) ∧
      last.depth = 0 ∧
      (parse tokens).1 = .program (rounds.filterMap Round.found) ∧
      (significantTokens tokens ≠ [] → (parse tokens).2 = last.faults) := by
  refine ⟨Standing.statement_advances, fun tokens => ?_⟩
  obtain ⟨rounds, last, runs⟩ := (Standing.start (significantTokens tokens)).exists_runs
  have taken : rounds.flatMap Round.taken = significantTokens tokens := runs.taken.1
  have found : descend (significantTokens tokens) =
      (rounds.filterMap Round.found, rounds.flatMap Round.faults) := runs.statements
  have faults : last.faults = structuralFaults (significantTokens tokens) ++ _ := runs.faults.1
  refine ⟨rounds, last, runs, ?_, taken, fun round member =>
    ⟨runs.taken.2 round member, runs.faults.2 round member⟩, runs.depth, ?_, fun nonempty => ?_⟩
  · exact runs.length_le
  · rw [parse]
    cases atHead : significantTokens tokens with
    | nil =>
      rw [atHead, descend, statements_nil, Prod.mk.injEq] at found
      rw [← found.1]
    | cons token rest =>
      rw [atHead] at found
      simp only [found]
  · rw [parse]
    cases atHead : significantTokens tokens with
    | nil => exact absurd atHead nonempty
    | cons token rest =>
      rw [atHead] at found faults
      simp only [found, faults]

/-- An assignment that breaks off within parentheses, behind a name. -/
def brokenOffSource : String :=
  "y # first\nx = (1"

/-- The place of the assignment, with one level of nesting left. -/
def brokenOffStanding : Standing :=
  ⟨significantTokens (tokenize brokenOffSource), 1, 255, []⟩

theorem reading_progresses_brokenOff :
    brokenOffStanding.position < brokenOffStanding.tokens.length ∧
    brokenOffStanding.Advances brokenOffStanding.statement.1 brokenOffStanding.statement.2 ∧
    significantTokens (tokenize brokenOffSource) ≠ [] ∧
    ∃ rounds last,
      (Standing.start (significantTokens (tokenize brokenOffSource))).Runs rounds last ∧
      rounds.length ≤ 5 ∧ (parse (tokenize brokenOffSource)).2 = last.faults := by
  have inside : brokenOffStanding.position < brokenOffStanding.tokens.length := by decide +kernel
  have nonempty : significantTokens (tokenize brokenOffSource) ≠ [] := by decide +kernel
  have five : (significantTokens (tokenize brokenOffSource)).length = 5 := by decide +kernel
  obtain ⟨advances, program⟩ := reading_progresses
  obtain ⟨rounds, last, runs, bound, -, -, -, -, faults⟩ := program (tokenize brokenOffSource)
  exact ⟨inside, advances _ inside, nonempty, rounds, last, runs, five ▸ bound, faults nonempty⟩

end SnippetCheck.Grammar

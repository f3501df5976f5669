import SnippetCheck.Grammar.Statement

namespace SnippetCheck.Grammar.Reader

variable {α β : Type}

/-- The reading succeeds: it takes the tokens before `rest`, gives a value, and has these faults
to show. A success with faults is one that recovered on the way. -/
def Yields (reader : Reader α) (tokens : List Token) (a : α) (rest : List Token)
    (faults : List Diagnostic) : Prop :=
  (reader tokens).result = some a ∧ (reader tokens).rest = rest ∧ (reader tokens).faults = faults

section Combinators

variable {tokens rest : List Token} {faults : List Diagnostic}

theorem yields_of_result {reader : Reader α} {a : α} (found : (reader tokens).result = some a) :
    reader.Yields tokens a (reader tokens).rest (reader tokens).faults :=
  ⟨found, rfl, rfl⟩

@[simp]
theorem yields_pure {a b : α} :
    (pure a : Reader α).Yields tokens b rest faults ↔ b = a ∧ rest = tokens ∧ faults = [] := by
  simp only [Yields, pure, Option.some.injEq]
  exact ⟨fun ⟨x, y, z⟩ => ⟨x.symm, y.symm, z.symm⟩, fun ⟨x, y, z⟩ => ⟨x.symm, y.symm, z.symm⟩⟩

/-- What fails first is all that is read. -/
theorem bind_of_none {reader : Reader α} (next : α → Reader β)
    (failed : (reader tokens).result = none) :
    ((reader >>= next) tokens).result = none ∧
      ((reader >>= next) tokens).rest = (reader tokens).rest ∧
      ((reader >>= next) tokens).faults = (reader tokens).faults := by
  simp [bind, failed]

/-- What follows a reading goes on where it stopped, and adds its faults. -/
theorem bind_of_some {reader : Reader α} {a : α} (next : α → Reader β)
    (found : (reader tokens).result = some a) :
    ((reader >>= next) tokens).result = (next a (reader tokens).rest).result ∧
      ((reader >>= next) tokens).rest = (next a (reader tokens).rest).rest ∧
      ((reader >>= next) tokens).faults =
        (reader tokens).faults ++ (next a (reader tokens).rest).faults := by
  simp [bind, found]

/-- A success of two readings in a row, taken apart. The faults of the first come first. -/
@[simp]
theorem yields_bind {reader : Reader α} {next : α → Reader β} {b : β} :
    (reader >>= next).Yields tokens b rest faults ↔
      ∃ a middle before after, reader.Yields tokens a middle before ∧
        (next a).Yields middle b rest after ∧ faults = before ++ after := by
  constructor
  · rintro ⟨result, atRest, atFaults⟩
    cases first : (reader tokens).result with
    | none => simp [(bind_of_none next first).1] at result
    | some a =>
      obtain ⟨sameResult, sameRest, sameFaults⟩ := bind_of_some next first
      exact ⟨a, _, _, _, yields_of_result first,
        ⟨sameResult ▸ result, sameRest ▸ atRest, rfl⟩, atFaults ▸ sameFaults⟩
  · rintro ⟨a, middle, before, after, ⟨first, rfl, rfl⟩, ⟨second, rfl, rfl⟩, rfl⟩
    obtain ⟨sameResult, sameRest, sameFaults⟩ := bind_of_some next first
    exact ⟨sameResult.trans second, sameRest, sameFaults⟩

@[simp]
theorem yields_fail {fault : Diagnostic} {a : α} :
    (fail fault).Yields tokens a rest faults ↔ False := by
  simp [Yields, fail]

section Looking

variable {next : Option Token → Reader β} {next' : Bool → Reader β}

/-- To look at a token changes nothing for what comes behind. -/
theorem peek_bind : (peek >>= next) tokens = next tokens.head? tokens :=
  rfl

theorem next_bind {condition : Token → Bool} :
    (Reader.next condition >>= next') tokens = next' (tokens.head?.any condition) tokens :=
  rfl

theorem second_bind {condition : Token → Bool} :
    (second condition >>= next') tokens = next' (tokens.tail.head?.any condition) tokens :=
  rfl

/-- Looking at the next token leaves it where it is. -/
@[simp]
theorem yields_peek_bind {b : β} :
    (peek >>= next).Yields tokens b rest faults ↔
      (next tokens.head?).Yields tokens b rest faults := by
  rw [Yields, peek_bind, Yields]

@[simp]
theorem yields_next_bind {condition : Token → Bool} {b : β} :
    (Reader.next condition >>= next').Yields tokens b rest faults ↔
      (next' (tokens.head?.any condition)).Yields tokens b rest faults := by
  rw [Yields, next_bind, Yields]

@[simp]
theorem yields_second_bind {condition : Token → Bool} {b : β} :
    (second condition >>= next').Yields tokens b rest faults ↔
      (next' (tokens.tail.head?.any condition)).Yields tokens b rest faults := by
  rw [Yields, second_bind, Yields]

end Looking

/-- What is passed over is gone for what follows. -/
@[simp]
theorem yields_skip_bind {next : Unit → Reader β} {b : β} :
    (skip >>= next).Yields tokens b rest faults ↔ (next ()).Yields tokens.tail b rest faults := by
  simp [Yields, bind, skip]

/-- A token that has to be there is taken. -/
@[simp]
theorem yields_expect {expected : String} {condition : Token → Bool} {token : Token} :
    (expect expected condition).Yields tokens token rest faults ↔
      tokens = token :: rest ∧ condition token = true ∧ faults = [] := by
  cases tokens with
  | nil => simp [Yields, expect]
  | cons first others =>
    by_cases fits : condition first
    · simp only [Yields, expect, fits, if_true, Option.some.injEq, List.cons.injEq]
      constructor
      · rintro ⟨rfl, rfl, rfl⟩
        exact ⟨⟨rfl, rfl⟩, fits, rfl⟩
      · rintro ⟨⟨rfl, rfl⟩, -, rfl⟩
        exact ⟨rfl, rfl, rfl⟩
    · simp only [Yields, expect, fits]
      constructor
      · rintro ⟨absurd, -⟩
        simp at absurd
      · rintro ⟨same, fits', -⟩
        cases same
        exact absurd fits' fits

/-- Where the token is there, it makes no difference whether it has to be. -/
theorem yields_accept_some {condition : Token → Bool} {token : Token} :
    (accept condition).Yields tokens (some token) rest faults ↔
      tokens = token :: rest ∧ condition token = true ∧ faults = [] := by
  have expected : (accept condition).Yields tokens (some token) rest faults ↔
      (expect "" condition).Yields tokens token rest faults := by
    cases tokens with
    | nil => simp [Yields, accept, expect]
    | cons first others => by_cases fits : condition first <;> simp [Yields, accept, expect, fits]
  exact expected.trans yields_expect

/-- A token that is not accepted stays. -/
theorem yields_accept_none {condition : Token → Bool} :
    (accept condition).Yields tokens none rest faults ↔
      tokens.head?.any condition = false ∧ rest = tokens ∧ faults = [] := by
  cases tokens with
  | nil => simp [Yields, accept, eq_comm]
  | cons first others => by_cases fits : condition first <;> simp [Yields, accept, fits, eq_comm]

@[simp]
theorem yields_expect_bind {expected : String} {condition : Token → Bool}
    {next : Token → Reader β} {b : β} :
    (expect expected condition >>= next).Yields tokens b rest faults ↔
      ∃ token middle, tokens = token :: middle ∧ condition token = true ∧
        (next token).Yields middle b rest faults := by
  simp only [yields_bind, yields_expect]
  constructor
  · rintro ⟨token, middle, _, after, ⟨rfl, fits, rfl⟩, second, rfl⟩
    exact ⟨token, middle, rfl, fits, second⟩
  · rintro ⟨token, middle, rfl, fits, second⟩
    exact ⟨token, middle, [], faults, ⟨rfl, fits, rfl⟩, second, rfl⟩

/-- A token that is not there is no failure to an attempt, but it leaves a fault. -/
theorem yields_attempt_expect {expected : String} {condition : Token → Bool}
    {found : Option Token}
    (attempted : (attempt (expect expected condition)).Yields tokens found rest faults) :
    (∃ token, found = some token ∧ tokens = token :: rest ∧ condition token = true ∧ faults = []) ∨
      (found = none ∧ rest = tokens ∧ tokens.head?.any condition = false ∧ faults ≠ []) := by
  obtain ⟨result, rfl, rfl⟩ := attempted
  obtain rfl : (expect expected condition tokens).result = found := Option.some.inj result
  cases tokens with
  | nil => simp [attempt, expect]
  | cons first others => by_cases fits : condition first <;> simp [attempt, expect, fits]

end Combinators

end SnippetCheck.Grammar.Reader

import SnippetCheck.Proofs.Language.Phrase

namespace SnippetCheck.Grammar

/-- The tokens that an expression can begin with. -/
def StartsExpression (token : Token) : Prop :=
  token.kind = .number ∨ token.kind = .string ∨ token.kind = .identifier ∨
    token.isKeyword "print" = true ∨ token.isSymbol "(" = true

def Phrase.isValue : Phrase → Bool
  | expression => true
  | chain _ => true
  | factor => true
  | _ => false

theorem Level.operand_isValue (level : Level) : level.operand.isValue = true := by
  cases level <;> rfl

theorem Derives.starts {phrase : Phrase} {tokens rest : List Token} {trees : List Node}
    (derived : Derives phrase tokens trees rest) (value : phrase.isValue = true) :
    ∃ token more, tokens = token :: more ∧ StartsExpression token := by
  induction derived with
  | number kind => exact ⟨_, _, rfl, .inl kind⟩
  | string kind => exact ⟨_, _, rfl, .inr (.inl kind)⟩
  | name kind => exact ⟨_, _, rfl, .inr (.inr (.inl kind))⟩
  | call callable => exact ⟨_, _, rfl, .inr (.inr (callable.imp_right .inl))⟩
  | parenthesized opens => exact ⟨_, _, rfl, .inr (.inr (.inr (.inr opens)))⟩
  | @operand level _ _ _ _ ih => exact ih level.operand_isValue
  | operation _ _ _ _ ih => exact ih rfl
  | arithmetic _ ih => exact ih rfl
  | comparison _ _ _ _ ih => exact ih rfl
  | _ => simp [Phrase.isValue] at value

theorem Derives.statement_starts {tokens rest : List Token} {trees : List Node}
    (derived : Derives .statement tokens trees rest) :
    ∃ token more, tokens = token :: more ∧ (token.kind = .keyword ∨ StartsExpression token) := by
  cases derived with
  | definition isDef => exact ⟨_, _, rfl, .inl (Token.kind_of_isKeyword isDef)⟩
  | conditional isIf => exact ⟨_, _, rfl, .inl (Token.kind_of_isKeyword isIf)⟩
  | alternative isIf => exact ⟨_, _, rfl, .inl (Token.kind_of_isKeyword isIf)⟩
  | bareReturn isReturn => exact ⟨_, _, rfl, .inl (Token.kind_of_isKeyword isReturn)⟩
  | returnValue isReturn => exact ⟨_, _, rfl, .inl (Token.kind_of_isKeyword isReturn)⟩
  | assignment kind => exact ⟨_, _, rfl, .inr (.inr (.inr (.inl kind)))⟩
  | expression inner =>
    obtain ⟨token, more, same, starts⟩ := inner.starts rfl
    exact ⟨token, more, same, .inr starts⟩

/-- The tokens do not begin with an operator, so that no expression before them goes on. -/
def Settled (tokens : List Token) : Prop :=
  tokens.head?.any (·.kind == .operator) = false

theorem StartsExpression.not_operator {token : Token} (starts : StartsExpression token) :
    token.kind ≠ .operator := by
  intro operator
  simp [StartsExpression, Token.isKeyword, Token.isSymbol, Token.is, operator] at starts

theorem StartsExpression.not_closing {token : Token} (starts : StartsExpression token) :
    token.isSymbol ")" = false := by
  rw [Bool.eq_false_iff]
  intro closes
  obtain ⟨kind, text⟩ := Token.is_iff.mp closes
  simp [StartsExpression, Token.isKeyword, Token.isSymbol, Token.is, kind, text] at starts

theorem Derives.statement_settled {tokens rest : List Token} {trees : List Node}
    (derived : Derives .statement tokens trees rest) : Settled tokens := by
  obtain ⟨token, more, rfl, keyword | starts⟩ := derived.statement_starts
  · simp [Settled, keyword]
  · simp [Settled, starts.not_operator]

theorem Derives.body_settled {ending : Ending} {tokens rest : List Token} {trees : List Node}
    (derived : Derives (.body ending) tokens trees rest) : Settled tokens := by
  cases derived with
  | bodyEnd stops =>
    cases tokens with
    | nil => rfl
    | cons token tokens =>
      have keyword : token.kind = .keyword := by
        cases ending <;> simp [Ending.stops, Token.isKeyword, Token.is] at stops
        · rcases stops with stops | stops <;> exact stops.1
        · exact stops.1
      simp [Settled, keyword]
  | bodyStatement _ first => exact first.statement_settled

theorem Program.settled {tokens : List Token} {trees : List Node}
    (program : Program tokens trees) : Settled tokens := by
  cases program with
  | last only => exact only.statement_settled
  | next first => exact first.statement_settled

/-- A name before an equals sign is an expression of its own: the sign is none that goes on. -/
theorem Derives.before_equals {phrase : Phrase} {name sign : Token} {tokens more rest : List Token}
    {trees : List Node} (derived : Derives phrase tokens trees rest)
    (value : phrase.isValue = true) (begins : tokens = name :: sign :: more)
    (identifier : name.kind = .identifier) (equals : sign.isOperator "=" = true) :
    rest = sign :: more := by
  obtain ⟨operator, text⟩ := Token.is_iff.mp equals
  induction derived with
  | number kind =>
    cases begins
    simp [kind] at identifier
  | string kind =>
    cases begins
    simp [kind] at identifier
  | name => cases begins; rfl
  | call _ opens =>
    cases begins
    simp [Token.kind_of_isSymbol opens] at operator
  | parenthesized opens =>
    cases begins
    simp [Token.kind_of_isSymbol opens] at identifier
  | @operand level _ _ _ _ ih => exact ih level.operand_isValue begins
  | @operation level _ _ _ _ _ _ _ _ isSign _ ih =>
    cases ih rfl begins
    cases level <;> simp [Level.signs, text] at isSign
  | arithmetic _ ih => exact ih rfl begins
  | comparison _ _ isSign _ ih =>
    cases ih rfl begins
    simp [comparisonSigns, text] at isSign
  | _ => simp [Phrase.isValue] at value

end SnippetCheck.Grammar

import SnippetCheck.Proofs.Language.First
import SnippetCheck.Structure.Checks

namespace SnippetCheck.Grammar

/-- The tokens before `rest` change nothing for the structural checks: every bracket among them
finds its partner there, and every definition has its shape. -/
structure Sound (tokens rest : List Token) : Prop where
  brackets : ∀ opened, tokens.foldlM Brackets.step opened = rest.foldlM Brackets.step opened
  signatures : Signatures.check tokens = Signatures.check rest

/-- A token that is neither a bracket nor the beginning of a definition. -/
structure Inert (token : Token) : Prop where
  bracket : ∀ opened, Brackets.step opened token = .ok opened
  definition : token.isKeyword "def" = false

/-- Only symbols and keywords have to do with brackets and signatures. -/
theorem inert_of_kind {token : Token} {kind : TokenKind} (ofKind : token.kind = kind)
    (other : kind ≠ .symbol ∧ kind ≠ .keyword) : Inert token := by
  refine ⟨fun opened => ?_, ?_⟩
  · simp [Brackets.step, ofKind, other]
  · simp [Token.isKeyword, Token.is, ofKind, other]

theorem inert_of_keyword {token : Token} {word : String} (isWord : token.isKeyword word = true)
    (different : word ≠ "def") : Inert token := by
  obtain ⟨kind, text⟩ := Token.is_iff.mp isWord
  refine ⟨fun opened => ?_, ?_⟩
  · simp [Brackets.step, kind]
  · simp [Token.isKeyword, Token.is, text, different]

theorem inert_of_mark {token : Token} {mark : String} (isMark : token.isSymbol mark = true)
    (noBracket : Brackets.isOpener mark = false ∧ Brackets.openerFor mark = none) :
    Inert token := by
  obtain ⟨kind, text⟩ := Token.is_iff.mp isMark
  refine ⟨fun opened => ?_, ?_⟩
  · simp [Brackets.step, kind, text, noBracket]
  · simp [Token.isKeyword, Token.is, kind]

theorem inert_of_comma {token : Token} (comma : token.isSymbol "," = true) : Inert token :=
  inert_of_mark comma (by simp [Brackets.isOpener, Brackets.openerFor])

theorem inert_of_colon {token : Token} (colon : token.isSymbol ":" = true) : Inert token :=
  inert_of_mark colon (by simp [Brackets.isOpener, Brackets.openerFor])

theorem Sound.refl (tokens : List Token) : Sound tokens tokens :=
  ⟨fun _ => rfl, rfl⟩

/-- Sound parts make up a sound whole. -/
theorem Sound.trans {tokens middle rest : List Token} (first : Sound tokens middle)
    (second : Sound middle rest) : Sound tokens rest :=
  ⟨fun opened => (first.brackets opened).trans (second.brackets opened),
    first.signatures.trans second.signatures⟩

theorem Sound.skip {token : Token} (inert : Inert token) (tokens : List Token) :
    Sound (token :: tokens) tokens := by
  refine ⟨fun opened => ?_, ?_⟩
  · rw [List.foldlM_cons, inert.bracket]
    rfl
  · simp [Signatures.check, inert.definition]

/-- What stands between parentheses may leave the closing one to its opening one. -/
theorem Sound.enclosed {opening closing : Token} {inner rest : List Token}
    (opens : opening.isSymbol "(" = true) (sound : Sound inner (closing :: rest))
    (closes : closing.isSymbol ")" = true) : Sound (opening :: inner) rest := by
  obtain ⟨kind, text⟩ := Token.is_iff.mp opens
  obtain ⟨kind', text'⟩ := Token.is_iff.mp closes
  refine ⟨fun opened => ?_, ?_⟩
  · have open' : Brackets.step opened opening = .ok (⟨"(", opening.line⟩ :: opened) := by
      simp [Brackets.step, kind, text, Brackets.isOpener]
    have close : Brackets.step (⟨"(", opening.line⟩ :: opened) closing = .ok opened := by
      simp [Brackets.step, kind', text', Brackets.isOpener, Brackets.openerFor]
    calc
      (opening :: inner).foldlM Brackets.step opened
          = inner.foldlM Brackets.step (⟨"(", opening.line⟩ :: opened) := by
            rw [List.foldlM_cons, open']
            rfl
      _ = (closing :: rest).foldlM Brackets.step (⟨"(", opening.line⟩ :: opened) :=
            sound.brackets _
      _ = rest.foldlM Brackets.step opened := by
            rw [List.foldlM_cons, close]
            rfl
  · have noDef := Token.not_isKeyword_of_isSymbol opens "def"
    have noDef' := Token.not_isKeyword_of_isSymbol closes "def"
    simpa [Signatures.check, noDef, noDef'] using sound.signatures

/-- A colon comes before the next definition. -/
def colonAhead (tokens : List Token) : Bool :=
  (tokens.takeWhile fun token => !token.isKeyword "def").any (·.isSymbol ":")

/-- A token that is no `def` does not hide a colon behind it. -/
theorem colonAhead_cons {token : Token} (noDef : token.isKeyword "def" = false)
    {tokens : List Token} (ahead : colonAhead tokens = true) :
    colonAhead (token :: tokens) = true := by
  simp only [colonAhead] at ahead ⊢
  simp [noDef, ahead]

/-- A colon behind the parameters is seen from before them. -/
theorem Derives.parameters_colonAhead {phrase : Phrase} {tokens rest : List Token}
    {trees : List Node} (derived : Derives phrase tokens trees rest)
    (parameters : phrase = .parameter ∨ phrase = .list .parameter ∨ phrase = .more .parameter)
    (ahead : colonAhead rest = true) : colonAhead tokens = true := by
  induction derived with
  | parameter kind => exact colonAhead_cons (Token.not_isKeyword_of_kind (by simp [kind]) _) ahead
  | noItems => exact ahead
  | @items item _ _ _ _ _ _ _ ih ih' =>
    obtain rfl : item = .parameter := by simpa using parameters
    exact ih (.inl rfl) (ih' (.inr (.inr rfl)) ahead)
  | noMore => exact ahead
  | @more item _ _ _ _ _ _ comma _ _ ih ih' =>
    obtain rfl : item = .parameter := by simpa using parameters
    exact colonAhead_cons (inert_of_comma comma).definition
      (ih (.inl rfl) (ih' (.inr (.inr rfl)) ahead))
  | _ => simp at parameters

/-- A definition whose signature is in order is none that the check of definitions objects to. -/
theorem Sound.definition {keyword name opening : Token} {signature rest : List Token}
    (isDef : keyword.isKeyword "def" = true) (identifier : name.kind = .identifier)
    (opens : opening.isSymbol "(" = true) (ahead : colonAhead signature = true)
    (sound : Sound (opening :: signature) rest) :
    Sound (keyword :: name :: opening :: signature) rest := by
  have named := (Sound.skip (inert_of_kind identifier (by decide)) _).trans sound
  refine ⟨fun opened => ?_, ?_⟩
  · have noBracket : Brackets.step opened keyword = .ok opened := by
      simp [Brackets.step, Token.kind_of_isKeyword isDef]
    rw [List.foldlM_cons, noBracket]
    exact named.brackets opened
  · have noDef := Token.not_isKeyword_of_isSymbol opens "def"
    have shaped : Signatures.fault keyword.line (name :: opening :: signature) = none := by
      have ahead' := colonAhead_cons noDef ahead
      simp only [colonAhead] at ahead'
      simp only [Signatures.fault, identifier, if_true, List.head?_cons, Option.any_some, opens,
        ahead']
    rw [Signatures.check, if_pos isDef, shaped]
    exact named.signatures

/-- What the grammar derives is in order for the structural checks. -/
theorem Derives.sound {phrase : Phrase} {tokens rest : List Token} {trees : List Node}
    (derived : Derives phrase tokens trees rest) : Sound tokens rest := by
  induction derived with
  | number kind => exact .skip (inert_of_kind kind (by decide)) _
  | string kind => exact .skip (inert_of_kind kind (by decide)) _
  | name kind => exact .skip (inert_of_kind kind (by decide)) _
  | call callable opens _ closes ih =>
    refine (Sound.skip ?_ _).trans (.enclosed opens ih closes)
    rcases callable with kind | print
    · exact inert_of_kind kind (by decide)
    · exact inert_of_keyword print (by decide)
  | parenthesized opens _ closes ih => exact .enclosed opens ih closes
  | operand _ ih => exact ih
  | operation _ kind _ _ ih ih' =>
    exact ih.trans ((Sound.skip (inert_of_kind kind (by decide)) _).trans ih')
  | arithmetic _ ih => exact ih
  | comparison _ kind _ _ ih ih' =>
    exact ih.trans ((Sound.skip (inert_of_kind kind (by decide)) _).trans ih')
  | parameter kind => exact .skip (inert_of_kind kind (by decide)) _
  | noItems => exact .refl _
  | items _ _ ih ih' => exact ih.trans ih'
  | noMore => exact .refl _
  | more comma _ _ ih ih' => exact (Sound.skip (inert_of_comma comma) _).trans (ih.trans ih')
  | @definition _ _ _ _ _ _ colon start _ _ isDef identifier opens list closes isColon _ ih ih' =>
    have inner := Sound.enclosed opens ih closes
    have whole := inner.trans ((Sound.skip (inert_of_colon isColon) _).trans ih')
    refine .definition isDef identifier opens ?_ whole
    refine list.parameters_colonAhead (.inr (.inl rfl)) ?_
    refine colonAhead_cons (Token.not_isKeyword_of_isSymbol closes _) ?_
    simp [colonAhead, (inert_of_colon isColon).definition, isColon]
  | conditional isIf _ colon _ _ ih ih' =>
    exact (Sound.skip (inert_of_keyword isIf (by decide)) _).trans
      (ih.trans ((Sound.skip (inert_of_colon colon) _).trans ih'))
  | alternative isIf _ colon _ isElse colon' _ ih ih' ih'' =>
    have first := (Sound.skip (inert_of_keyword isIf (by decide)) _).trans
      (ih.trans ((Sound.skip (inert_of_colon colon) _).trans ih'))
    exact first.trans ((Sound.skip (inert_of_keyword isElse (by decide)) _).trans
      ((Sound.skip (inert_of_colon colon') _).trans ih''))
  | bareReturn isReturn => exact .skip (inert_of_keyword isReturn (by decide)) _
  | returnValue isReturn _ _ ih =>
    exact (Sound.skip (inert_of_keyword isReturn (by decide)) _).trans ih
  | assignment kind equals _ ih =>
    have sign := Token.kind_of_isOperator equals
    exact (Sound.skip (inert_of_kind kind (by decide)) _).trans
      ((Sound.skip (inert_of_kind sign (by decide)) _).trans ih)
  | expression _ ih => exact ih
  | bodyEnd => exact .refl _
  | bodyStatement _ _ _ ih ih' => exact ih.trans ih'

/-- The tokens of a program are sound as a whole. -/
theorem Program.sound {tokens : List Token} {trees : List Node} (program : Program tokens trees) :
    Sound tokens [] := by
  induction program with
  | last only => exact only.sound
  | next first _ ih => exact first.sound.trans ih

/-- No program has a structural fault. -/
theorem Program.structuralFaults_eq_nil {tokens : List Token} {trees : List Node}
    (program : Program tokens trees) : structuralFaults tokens = [] := by
  have balanced : Brackets.check tokens = [] := by
    rw [Brackets.check, program.sound.brackets]
    rfl
  rw [structuralFaults, balanced, program.sound.signatures]
  rfl

end SnippetCheck.Grammar

import Mathlib.Data.List.Induction
import SnippetCheck.Structure.Checks

namespace SnippetCheck.Brackets

/-- The opening brackets, each with the closing one that belongs to it. -/
def pairs : List (String × String) :=
  [("(", ")"), ("[", "]"), ("\x7b", "\x7d")]

def opens (token : Token) : Bool :=
  pairs.any fun pair => token.isSymbol pair.1

def closes (token : Token) : Bool :=
  pairs.any fun pair => token.isSymbol pair.2

/-- Two brackets that belong together. -/
def fits (opening closing : Token) : Bool :=
  pairs.any fun pair => opening.isSymbol pair.1 && closing.isSymbol pair.2

/-- The brackets among tokens. -/
def among (tokens : List Token) : List Token :=
  tokens.filter fun token => opens token || closes token

/-- Properly nested brackets: every opening one has a closing one of its kind behind it, and
what stands between the two is properly nested, as is what stands behind them. -/
inductive Nested : List Token → Prop
  | nothing : Nested []
  | pair {opening closing : Token} {inner rest : List Token} (fit : fits opening closing = true)
      (between : Nested inner) (behind : Nested rest) :
      Nested (opening :: inner ++ closing :: rest)

/-- Something can be put behind the brackets so that all is properly nested. -/
def Completable (word : List Token) : Prop :=
  ∃ more, Nested (word ++ more)

/-- The partner of an opening bracket is among the brackets behind it. -/
def ClosedIn (opening : Token) (behind : List Token) : Prop :=
  ∃ inner closing rest, behind = inner ++ closing :: rest ∧ fits opening closing = true ∧
    Nested inner

/-- The second list has the opening brackets of the first that are without a partner, in their
order. -/
inductive Unclosed : List Token → List Token → Prop
  | nothing : Unclosed [] []
  | kept {token : Token} {rest unclosed : List Token} (opening : opens token = true)
      (alone : ¬ ClosedIn token rest) (others : Unclosed rest unclosed) :
      Unclosed (token :: rest) (token :: unclosed)
  | passed {token : Token} {rest unclosed : List Token}
      (closed : opens token = true → ClosedIn token rest) (others : Unclosed rest unclosed) :
      Unclosed (token :: rest) unclosed

section Kinds

variable {opening closing token : Token} {text closer : String}

/-- The partners are those of the three pairs. -/
theorem openerFor_eq_some_iff : openerFor closer = some text ↔ (text, closer) ∈ pairs := by
  constructor
  · intro found
    unfold openerFor at found
    split at found <;> simp_all [pairs]
  · intro member
    simp only [pairs, List.mem_cons, Prod.mk.injEq, List.not_mem_nil, or_false] at member
    rcases member with ⟨rfl, rfl⟩ | ⟨rfl, rfl⟩ | ⟨rfl, rfl⟩ <;> rfl

theorem isOpener_iff : isOpener text = true ↔ ∃ closer, (text, closer) ∈ pairs := by
  simp [isOpener, pairs, or_assoc, exists_or]

/-- No bracket both opens and closes. -/
theorem not_isOpener_of_openerFor (found : openerFor closer = some text) :
    isOpener closer = false := by
  have member := openerFor_eq_some_iff.mp found
  simp only [pairs, List.mem_cons, Prod.mk.injEq, List.not_mem_nil, or_false] at member
  rcases member with ⟨-, rfl⟩ | ⟨-, rfl⟩ | ⟨-, rfl⟩ <;> rfl

theorem opens_iff : opens token = true ↔ token.kind = .symbol ∧ isOpener token.text = true := by
  simp only [opens, List.any_eq_true, Token.isSymbol, Token.is_iff, isOpener_iff]
  grind

theorem closes_iff :
    closes token = true ↔ token.kind = .symbol ∧ ∃ text, openerFor token.text = some text := by
  simp only [closes, List.any_eq_true, Token.isSymbol, Token.is_iff, openerFor_eq_some_iff]
  grind

theorem fits_iff :
    fits opening closing = true ↔ opening.kind = .symbol ∧ closing.kind = .symbol ∧
      openerFor closing.text = some opening.text := by
  simp only [fits, List.any_eq_true, Bool.and_eq_true, Token.isSymbol, Token.is_iff,
    openerFor_eq_some_iff]
  grind

theorem opens_of_fits (fit : fits opening closing = true) : opens opening = true := by
  obtain ⟨kind, -, found⟩ := fits_iff.mp fit
  exact opens_iff.mpr ⟨kind, isOpener_iff.mpr ⟨_, openerFor_eq_some_iff.mp found⟩⟩

theorem closes_of_fits (fit : fits opening closing = true) : closes closing = true := by
  obtain ⟨-, kind, found⟩ := fits_iff.mp fit
  exact closes_iff.mpr ⟨kind, _, found⟩

/-- For every opening bracket there is one that closes it. -/
theorem exists_fits (isOpening : opens opening = true) :
    ∃ closing, fits opening closing = true := by
  obtain ⟨kind, isOpener⟩ := opens_iff.mp isOpening
  obtain ⟨closer, member⟩ := isOpener_iff.mp isOpener
  exact ⟨⟨.symbol, closer, 0, 0⟩, fits_iff.mpr ⟨kind, rfl, openerFor_eq_some_iff.mpr member⟩⟩

/-- No bracket both opens and closes. -/
theorem not_opens_of_closes (isClosing : closes token = true) : opens token = false := by
  obtain ⟨-, text, found⟩ := closes_iff.mp isClosing
  rw [Bool.eq_false_iff]
  intro isOpening
  have isOpener := (opens_iff.mp isOpening).2
  rw [not_isOpener_of_openerFor found] at isOpener
  cases isOpener

end Kinds

section Steps

variable {token : Token}

/-- An opening bracket as it is kept while it stands open. -/
def mark (token : Token) : OpenBracket :=
  ⟨token.text, token.line⟩

/-- An opening bracket becomes the innermost. -/
theorem step_of_opens (isOpening : opens token = true) (opened : List OpenBracket) :
    step opened token = .ok (mark token :: opened) := by
  obtain ⟨kind, isOpener⟩ := opens_iff.mp isOpening
  simp [step, kind, isOpener, mark]

/-- A closing bracket that fits the innermost takes it away. -/
theorem step_of_fits {opening : Token} (fit : fits opening token = true)
    (outer : List OpenBracket) : step (mark opening :: outer) token = .ok outer := by
  obtain ⟨-, kind, found⟩ := fits_iff.mp fit
  simp [step, kind, not_isOpener_of_openerFor found, found, mark]

theorem step_of_closes (isClosing : closes token = true) :
    step [] token = .error (.unmatchedCloser token.text token.line) := by
  obtain ⟨kind, text, found⟩ := closes_iff.mp isClosing
  simp [step, kind, not_isOpener_of_openerFor found, found]

/-- A closing bracket that does not fit the innermost is a fault that names both. -/
theorem step_of_not_fits {opening : Token} (isOpening : opens opening = true)
    (isClosing : closes token = true) (misfit : fits opening token = false)
    (outer : List OpenBracket) :
    step (mark opening :: outer) token =
      .error (.mismatchedBracket token.text token.line (mark opening)) := by
  obtain ⟨kind, text, found⟩ := closes_iff.mp isClosing
  have other : opening.text ≠ text := by
    rintro rfl
    have fit := fits_iff.mpr ⟨(opens_iff.mp isOpening).1, kind, found⟩
    rw [misfit] at fit
    cases fit
  simp [step, kind, not_isOpener_of_openerFor found, found, mark, other]

/-- No other token changes which brackets stand open. -/
theorem step_of_other (other : (opens token || closes token) = false)
    (opened : List OpenBracket) : step opened token = .ok opened := by
  obtain ⟨noOpening, noClosing⟩ := Bool.or_eq_false_iff.mp other
  by_cases kind : token.kind = .symbol
  · have noOpener : isOpener token.text = false := by
      rw [Bool.eq_false_iff]
      exact fun isOpener => by simp [opens_iff.mpr ⟨kind, isOpener⟩] at noOpening
    have none : openerFor token.text = none := by
      rw [Option.eq_none_iff_forall_ne_some]
      exact fun text found => by simp [closes_iff.mpr ⟨kind, text, found⟩] at noClosing
    simp [step, kind, noOpener, none]
  · simp [step, kind]

/-- Only the brackets among tokens count. -/
theorem foldlM_among (tokens : List Token) (opened : List OpenBracket) :
    (among tokens).foldlM step opened = tokens.foldlM step opened := by
  rw [among, List.foldlM_filter]
  congr 1
  funext opened token
  cases bracket : opens token || closes token with
  | true => rfl
  | false => exact (step_of_other bracket opened).symm

end Steps

end SnippetCheck.Brackets

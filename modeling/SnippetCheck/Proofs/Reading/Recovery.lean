import SnippetCheck.Diagnostic
import SnippetCheck.Proofs.Language.Phrase

namespace SnippetCheck.Grammar

/-- What a reading that succeeds comes to, with faults or without. To the grammar it adds two
ways to go on after a failure, a parameter that is not there and a statement that breaks a body
off, and a bound: `free` levels of nesting are left, and no chain grows higher. -/
inductive Reads :
    Nat → Phrase → List Token → List Node → List Token → List Diagnostic → Prop
  | number {free token rest} : token.kind = .number →
      Reads free .factor (token :: rest) [.leaf .number token.text token.line] rest []
  | string {free token rest} : token.kind = .string →
      Reads free .factor (token :: rest) [.leaf .string token.text token.line] rest []
  | name {free token rest} : token.kind = .identifier →
      rest.head?.any (·.isSymbol "(") = false →
      Reads free .factor (token :: rest) [.leaf .identifier token.text token.line] rest []
  | call {free callee opening inner arguments closing rest faults} :
      callee.kind = .identifier ∨ callee.isKeyword "print" → opening.isSymbol "(" →
      Reads free (.list .argument) inner arguments (closing :: rest) faults →
      closing.isSymbol ")" →
      Reads free .factor (callee :: opening :: inner)
        [.mk .functionCall callee.text callee.line arguments] rest faults
  | parenthesized {free opening inner node closing rest faults} : opening.isSymbol "(" →
      Reads free .expression inner [node] (closing :: rest) faults → closing.isSymbol ")" →
      Reads free .factor (opening :: inner) [node] rest faults
  | operand {free level tokens node rest faults} :
      Reads free level.operand tokens [node] rest faults →
      Reads free (.chain level) tokens [node] rest faults
  | operation {free level tokens left sign middle before right rest after} :
      Reads free (.chain level) tokens [left] (sign :: middle) before →
      sign.kind = .operator → sign.text ∈ level.signs →
      Reads free level.operand middle [right] rest after →
      max left.height right.height < free →
      Reads free (.chain level) tokens [.binary sign.text sign.line left right] rest
        (before ++ after)
  | arithmetic {free tokens node rest faults} :
      Reads free (.chain .sum) tokens [node] rest faults →
      Reads (free + 1) .expression tokens [node] rest faults
  | comparison {free tokens left sign middle before right rest after} :
      Reads free (.chain .sum) tokens [left] (sign :: middle) before →
      sign.kind = .operator → sign.text ∈ comparisonSigns →
      Reads free (.chain .sum) middle [right] rest after →
      Reads (free + 1) .expression tokens [.binary sign.text sign.line left right] rest
        (before ++ after)
  | parameter {free name rest} : name.kind = .identifier →
      Reads free .parameter (name :: rest) [.leaf .parameter name.text name.line] rest []
  | missingParameter {free tokens faults} : faults ≠ [] →
      Reads free .parameter tokens [] tokens faults
  | noItems {free item tokens} : Reads free (.list item) tokens [] tokens []
  | items {free item tokens first middle before others rest after} :
      Reads free item.phrase tokens first middle before →
      Reads free (.more item) middle others rest after →
      Reads free (.list item) tokens (first ++ others) rest (before ++ after)
  | noMore {free item tokens} : Reads free (.more item) tokens [] tokens []
  | more {free item comma tokens next middle before others rest after} : comma.isSymbol "," →
      Reads free item.phrase tokens next middle before →
      Reads free (.more item) middle others rest after →
      Reads free (.more item) (comma :: tokens) (next ++ others) rest (before ++ after)
  | definition {free keyword name opening signature parameters closing colon start before body rest
      after} :
      keyword.isKeyword "def" → name.kind = .identifier → opening.isSymbol "(" →
      Reads free (.list .parameter) signature parameters (closing :: colon :: start) before →
      closing.isSymbol ")" → colon.isSymbol ":" →
      Reads free (.body .atDef) start body rest after →
      Reads (free + 1) .statement (keyword :: name :: opening :: signature)
        [.mk .functionDef name.text name.line (parameters ++ body)] rest (before ++ after)
  | conditional {free keyword tokens condition colon start before body rest after} :
      keyword.isKeyword "if" →
      Reads free .expression tokens [condition] (colon :: start) before → colon.isSymbol ":" →
      Reads free (.body .atElse) start body rest after →
      rest.head?.any (·.isKeyword "else") = false →
      Reads (free + 1) .statement (keyword :: tokens)
        [.mk .ifStatement "" keyword.line (condition :: body)] rest (before ++ after)
  | alternative {free keyword tokens condition colon start before body other colon' start' between
      body' rest after} :
      keyword.isKeyword "if" →
      Reads free .expression tokens [condition] (colon :: start) before → colon.isSymbol ":" →
      Reads free (.body .atElse) start body (other :: colon' :: start') between →
      other.isKeyword "else" → colon'.isSymbol ":" →
      Reads free (.body .atDef) start' body' rest after →
      Reads (free + 1) .statement (keyword :: tokens)
        [.mk .ifStatement "" keyword.line (condition :: (body ++ body'))] rest
        (before ++ between ++ after)
  | bareReturn {free keyword rest} : keyword.isKeyword "return" →
      rest.head?.any (·.kind != .keyword) = false →
      Reads (free + 1) .statement (keyword :: rest) [.leaf .returnStatement "" keyword.line] rest []
  | returnValue {free keyword tokens value rest faults} : keyword.isKeyword "return" →
      tokens.head?.any (·.kind != .keyword) = true →
      Reads free .expression tokens [value] rest faults →
      Reads (free + 1) .statement (keyword :: tokens)
        [.mk .returnStatement "" keyword.line [value]] rest faults
  | assignment {free name sign tokens value rest faults} :
      name.kind = .identifier → sign.isOperator "=" →
      Reads free .expression tokens [value] rest faults →
      Reads (free + 1) .statement (name :: sign :: tokens)
        [.mk .assignment name.text name.line [value]] rest faults
  | expression {free tokens node rest faults} : Reads free .expression tokens [node] rest faults →
      Reads (free + 1) .statement tokens [node] rest faults
  | bodyEnd {free ending tokens} : tokens.head?.all ending.stops = true →
      Reads free (.body ending) tokens [] tokens []
  | brokenBody {free ending tokens rest faults} : rest <:+ tokens → faults ≠ [] →
      Reads free (.body ending) tokens [] rest faults
  | bodyStatement {free ending tokens first middle before others rest after} :
      tokens.head?.any ending.stops = false →
      Reads free .statement tokens [first] middle before →
      Reads free (.body ending) middle others rest after →
      Reads free (.body ending) tokens (first :: others) rest (before ++ after)

theorem Reads.rest_length {free : Nat} {phrase : Phrase} {tokens rest : List Token}
    {trees : List Node} {faults : List Diagnostic}
    (reads : Reads free phrase tokens trees rest faults) :
    rest.length ≤ tokens.length ∧ (phrase.isProper = true → rest.length < tokens.length) := by
  induction reads with
  | brokenBody suffix => exact ⟨suffix.length_le, by simp [Phrase.isProper]⟩
  | @operand _ level _ _ _ _ _ ih =>
    have shorter := ih.2 level.operand_isProper
    exact ⟨ih.1, fun _ => shorter⟩
  | @operation _ level _ _ _ _ _ _ _ _ _ _ _ _ _ ih ih' =>
    have shorter := ih'.2 level.operand_isProper
    have longer := ih.2 rfl
    simp only [List.length_cons] at longer
    exact ⟨by omega, fun _ => by omega⟩
  | _ => simp_all [Phrase.isProper]; try omega

/-- The statements of a whole program, with those left out that failed. A failed statement takes
a token at least, if need be one that is passed over. -/
inductive ReadsProgram (free : Nat) : List Token → List Node → List Diagnostic → Prop
  | done : ReadsProgram free [] [] []
  | statement {tokens node rest before others after} :
      Reads free .statement tokens [node] rest before → ReadsProgram free rest others after →
      ReadsProgram free tokens (node :: others) (before ++ after)
  | failure {token tokens rest before others after} : rest <:+ tokens → before ≠ [] →
      ReadsProgram free rest others after →
      ReadsProgram free (token :: tokens) others (before ++ after)

end SnippetCheck.Grammar

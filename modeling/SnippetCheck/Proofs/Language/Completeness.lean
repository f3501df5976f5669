import SnippetCheck.Proofs.Language.First
import SnippetCheck.Proofs.Reading.Gives
import SnippetCheck.Proofs.Reading.Statement

namespace SnippetCheck.Grammar

open Reader

section Operands

variable {inner : Reader Node} {token : Token} {tokens rest : List Token}

theorem gives_number (kind : token.kind = .number) :
    (factor inner).Gives (token :: rest) (.leaf .number token.text token.line) rest := by
  refine gives_peek.bind ?_
  simp only [List.head?_cons, kind, if_true]
  exact gives_skip.bind (gives_pure _)

theorem gives_string (kind : token.kind = .string) :
    (factor inner).Gives (token :: rest) (.leaf .string token.text token.line) rest := by
  refine gives_peek.bind ?_
  simp only [List.head?_cons, kind, reduceCtorEq, if_false, if_true]
  exact gives_skip.bind (gives_pure _)

/-- A name that no parenthesis follows stands for itself. -/
theorem gives_name (kind : token.kind = .identifier)
    (alone : rest.head?.any (·.isSymbol "(") = false) :
    (factor inner).Gives (token :: rest) (.leaf .identifier token.text token.line) rest := by
  refine gives_peek.bind ?_
  simp only [List.head?_cons, kind, reduceCtorEq, if_false, if_true]
  refine gives_skip.bind ((gives_next _).bind ?_)
  simp only [alone, Bool.false_eq_true, if_false]
  exact gives_pure _

theorem gives_arguments {opening closing : Token} {arguments : List Node} (callee : Token)
    (list : (Reader.commaSeparated inner).Gives tokens arguments (closing :: rest))
    (closes : closing.isSymbol ")" = true) :
    (call inner callee).Gives (opening :: tokens)
      (.mk .functionCall callee.text callee.line arguments) rest :=
  gives_skip.bind (list.bind ((gives_expect closes).bind (gives_pure _)))

/-- A name or `print`, and arguments in parentheses. -/
theorem gives_call {opening closing : Token} {arguments : List Node}
    (callable : token.kind = .identifier ∨ token.isKeyword "print" = true)
    (opens : opening.isSymbol "(" = true)
    (list : (Reader.commaSeparated inner).Gives tokens arguments (closing :: rest))
    (closes : closing.isSymbol ")" = true) :
    (factor inner).Gives (token :: opening :: tokens)
      (.mk .functionCall token.text token.line arguments) rest := by
  refine gives_peek.bind ?_
  rcases callable with kind | print
  · simp only [List.head?_cons, kind, reduceCtorEq, if_false, if_true]
    refine gives_skip.bind ((gives_next _).bind ?_)
    simp only [List.head?_cons, Option.any_some, opens, if_true]
    exact gives_arguments token list closes
  · simp only [List.head?_cons, Token.kind_of_isKeyword print, reduceCtorEq, if_false]
    refine (gives_second _).bind ?_
    simp only [List.tail_cons, List.head?_cons, Option.any_some, opens, print, Bool.and_true,
      if_true]
    exact gives_skip.bind (gives_arguments token list closes)

/-- Parentheses leave no trace in the tree. -/
theorem gives_parenthesized {opening closing : Token} {node : Node}
    (opens : opening.isSymbol "(" = true) (enclosed : inner.Gives tokens node (closing :: rest))
    (closes : closing.isSymbol ")" = true) : (factor inner).Gives (opening :: tokens) node rest := by
  have noPrint := Token.not_isKeyword_of_isSymbol opens "print"
  refine gives_peek.bind ?_
  simp only [List.head?_cons, Token.kind_of_isSymbol opens, reduceCtorEq, if_false]
  refine (gives_second _).bind ?_
  simp only [noPrint, Bool.false_and, Bool.false_eq_true, if_false, opens, if_true]
  exact gives_skip.bind (enclosed.bind ((gives_expect closes).bind (gives_pure _)))

end Operands

section Expressions

variable {tokens rest : List Token}

/-- No operator goes on where an expression is over. -/
theorem head_not_operator (settled : Settled rest) (operators : List String) :
    rest.head?.any (isOperatorOf operators) = false := by
  cases rest with
  | nil => rfl
  | cons token rest =>
    have kind : token.kind ≠ .operator := by simpa [Settled] using settled
    simp [isOperatorOf, kind]

/-- What a comparison gives with any number of free levels, an expression gives with one more. -/
theorem gives_expression {lastLine : UInt32} {node : Node}
    (given : ∀ free, (comparison free (expression lastLine free)).Gives tokens node rest)
    (free : Nat) : Gives (expression lastLine free) tokens node rest := by
  cases free with
  | zero => exact .inr ⟨_, List.mem_singleton_self _⟩
  | succ free => exact given free

/-- Arithmetic that no comparison sign follows is the whole comparison. -/
theorem gives_arithmetic {free : Nat} {inner : Reader Node} {node : Node} (settled : Settled rest)
    (given : (arithmetic free inner).Gives tokens node rest) :
    (comparison free inner).Gives tokens node rest := by
  refine given.bind ((gives_accept_none (head_not_operator settled _)).bind ?_)
  exact gives_pure _

theorem gives_comparison {free : Nat} {inner : Reader Node} {left right : Node} {sign : Token}
    {middle : List Token} (given : (arithmetic free inner).Gives tokens left (sign :: middle))
    (isSign : isOperatorOf comparisonOperators sign = true)
    (given' : (arithmetic free inner).Gives middle right rest) :
    (comparison free inner).Gives tokens (.binary sign.text sign.line left right) rest := by
  refine given.bind ((gives_accept_some isSign).bind ?_)
  exact given'.bind (gives_pure _)

end Expressions

section Statements

variable {inner inside : Reader Node} {keyword : Token} {tokens rest : List Token} {node : Node}

/-- A definition, from its `def` to the end of its body. -/
theorem gives_definition {name opening closing colon : Token} {found : List (Option Token)}
    {body : List Node} {start : List Token} (isDef : keyword.isKeyword "def" = true)
    (identifier : name.kind = .identifier) (opens : opening.isSymbol "(" = true)
    (list : (Reader.commaSeparated (Reader.name "parameter name").attempt).Gives tokens found
      (closing :: colon :: start))
    (closes : closing.isSymbol ")" = true) (isColon : colon.isSymbol ":" = true)
    (given : Gives (block (·.isKeyword "def") inner) start body rest) :
    (statementOf inner inside).Gives (keyword :: name :: opening :: tokens)
      (.mk .functionDef name.text name.line ((found.filterMap id).map parameter ++ body)) rest := by
  refine gives_peek.bind ?_
  simp only [List.head?_cons, isDef, if_true]
  refine gives_skip.bind ((gives_expect (by simp [identifier])).bind ?_)
  refine (gives_expect opens).bind (list.bind ?_)
  exact (gives_expect closes).bind ((gives_expect isColon).bind (given.bind (gives_pure _)))

theorem gives_if (isIf : keyword.isKeyword "if" = true)
    (given : (ifStatement inner inside keyword).Gives (keyword :: tokens) node rest) :
    (statementOf inner inside).Gives (keyword :: tokens) node rest := by
  refine gives_peek.bind ?_
  have noDef := Token.not_isKeyword_of_ne isIf (by decide : "if" ≠ "def")
  simp only [List.head?_cons, noDef, Bool.false_eq_true, if_false, isIf, if_true]
  exact given

theorem gives_return (isReturn : keyword.isKeyword "return" = true)
    (given : (returnStatement inside keyword).Gives (keyword :: tokens) node rest) :
    (statementOf inner inside).Gives (keyword :: tokens) node rest := by
  refine gives_peek.bind ?_
  have noDef := Token.not_isKeyword_of_ne isReturn (by decide : "return" ≠ "def")
  have noIf := Token.not_isKeyword_of_ne isReturn (by decide : "return" ≠ "if")
  simp only [List.head?_cons, noDef, noIf, Bool.false_eq_true, if_false, isReturn, if_true]
  exact given

/-- A conditional without `else`. -/
theorem gives_conditional {condition : Node} {colon : Token} {body : List Node}
    {start : List Token} (isIf : keyword.isKeyword "if" = true)
    (test : inside.Gives tokens condition (colon :: start)) (isColon : colon.isSymbol ":" = true)
    (given : Gives (block Ending.atElse.stops inner) start body rest)
    (alone : rest.head?.any (·.isKeyword "else") = false) :
    (statementOf inner inside).Gives (keyword :: tokens)
      (.mk .ifStatement "" keyword.line (condition :: body)) rest := by
  refine gives_if isIf (gives_skip.bind (test.bind ((gives_expect isColon).bind ?_)))
  refine given.bind ((gives_next _).bind ?_)
  simp only [alone, Bool.false_eq_true, if_false]
  exact gives_pure _

/-- A conditional with both bodies, whose statements follow in one list. -/
theorem gives_alternative {condition : Node} {colon other colon' : Token} {body body' : List Node}
    {start start' : List Token} (isIf : keyword.isKeyword "if" = true)
    (test : inside.Gives tokens condition (colon :: start)) (isColon : colon.isSymbol ":" = true)
    (given : Gives (block Ending.atElse.stops inner) start body (other :: colon' :: start'))
    (isElse : other.isKeyword "else" = true) (isColon' : colon'.isSymbol ":" = true)
    (given' : Gives (block Ending.atDef.stops inner) start' body' rest) :
    (statementOf inner inside).Gives (keyword :: tokens)
      (.mk .ifStatement "" keyword.line (condition :: (body ++ body'))) rest := by
  refine gives_if isIf (gives_skip.bind (test.bind ((gives_expect isColon).bind ?_)))
  refine given.bind ((gives_next _).bind ?_)
  simp only [List.head?_cons, Option.any_some, isElse, if_true]
  exact gives_skip.bind ((gives_expect isColon').bind (given'.bind (gives_pure _)))

/-- A `return` at the end or before a keyword has no value. -/
theorem gives_bareReturn (isReturn : keyword.isKeyword "return" = true)
    (alone : rest.head?.any (·.kind != .keyword) = false) :
    (statementOf inner inside).Gives (keyword :: rest)
      (.leaf .returnStatement "" keyword.line) rest := by
  refine gives_return isReturn (gives_skip.bind ((gives_next _).bind ?_))
  simp only [alone, Bool.false_eq_true, if_false]
  exact gives_pure _

theorem gives_returnValue {value : Node} (isReturn : keyword.isKeyword "return" = true)
    (more : tokens.head?.any (·.kind != .keyword) = true)
    (given : inside.Gives tokens value rest) :
    (statementOf inner inside).Gives (keyword :: tokens)
      (.mk .returnStatement "" keyword.line [value]) rest := by
  refine gives_return isReturn (gives_skip.bind ((gives_next _).bind ?_))
  simp only [more, if_true]
  exact given.bind (gives_pure _)

theorem gives_assignment {name sign : Token} {value : Node} (identifier : name.kind = .identifier)
    (equals : sign.isOperator "=" = true) (given : inside.Gives tokens value rest) :
    (statementOf inner inside).Gives (name :: sign :: tokens)
      (.mk .assignment name.text name.line [value]) rest := by
  refine gives_peek.bind ?_
  simp only [List.head?_cons, Token.isKeyword, Token.is, identifier, beq_iff_eq, reduceCtorEq,
    Bool.and_eq_true, false_and, if_false]
  refine (gives_second _).bind ?_
  simp only [List.tail_cons, List.head?_cons, Option.any_some, equals]
  exact gives_skip.bind (gives_skip.bind (given.bind (gives_pure _)))

/-- An expression is taken for a statement if neither a keyword nor an equals sign behind a name
claims it first. -/
theorem gives_expressionStatement {token : Token} (starts : StartsExpression token)
    (noEquals : token.kind = .identifier → tokens.head?.any (·.isOperator "=") = false)
    (given : inside.Gives (token :: tokens) node rest) :
    (statementOf inner inside).Gives (token :: tokens) node rest := by
  have noKeyword {word : String} (different : word ≠ "print") : token.isKeyword word = false := by
    rw [Bool.eq_false_iff]
    intro isWord
    obtain ⟨kind, text⟩ := Token.is_iff.mp isWord
    simp [StartsExpression, Token.isKeyword, Token.isSymbol, Token.is, kind, text, different]
      at starts
  refine gives_peek.bind ?_
  simp only [List.head?_cons, noKeyword (by decide : "def" ≠ "print"),
    noKeyword (by decide : "if" ≠ "print"), noKeyword (by decide : "return" ≠ "print"),
    Bool.false_eq_true, if_false]
  refine (gives_second _).bind ?_
  rw [if_neg]
  · exact given
  · simpa using noEquals

/-- What a statement of some kind gives with any number of free levels, a statement gives with one
more. -/
theorem gives_statement {lastLine : UInt32}
    (given : ∀ free, (statementOf (statement lastLine free) (expression lastLine free)).Gives tokens
      node rest)
    (free : Nat) : Gives (statement lastLine free) tokens node rest := by
  cases free with
  | zero => exact .inr ⟨_, List.mem_singleton_self _⟩
  | succ free => exact given free

end Statements

section Bodies

variable {stop : Token → Bool} {inner : Reader Node} {tokens rest : List Token}

theorem gives_bodyEnd (stops : tokens.head?.all stop = true) :
    Gives (block stop inner) tokens [] tokens :=
  .of_eq (block_stop stops) (gives_pure [])

/-- A body goes on behind a statement that has taken a token. -/
theorem gives_bodyStatement {token : Token} {node : Node} {others : List Node}
    {middle : List Token} (goesOn : stop token = false)
    (shorter : ∀ node, (inner (token :: tokens)).result = some node →
      (inner (token :: tokens)).rest.length < (token :: tokens).length)
    (given : inner.Gives (token :: tokens) node middle)
    (given' : Gives (block stop inner) middle others rest) :
    Gives (block stop inner) (token :: tokens) (node :: others) rest :=
  .of_eq (block_step goesOn shorter) ((gives_attempt given).bind (given'.bind (gives_pure _)))

end Bodies

section Derivations

/-- What the reader of an item finds, and the trees that come of it. A parameter is looked for
with an attempt. -/
def Item.Element : Item → Type
  | parameter => Option Token
  | argument => Node

def Item.reader (lastLine : UInt32) (free : Nat) : (item : Item) → Reader item.Element
  | parameter => (Reader.name "parameter name").attempt
  | argument => expression lastLine free

def Item.trees : (item : Item) → item.Element → List Node
  | parameter => fun found => found.toList.map Grammar.parameter
  | argument => fun node => [node]

def Level.below (lastLine : UInt32) (free : Nat) : Level → Reader Node
  | sum => term free (expression lastLine free)
  | product => factor (expression lastLine free)

/-- What has to come behind a phrase for its reader to stop there. -/
def Phrase.Follow : Phrase → List Token → Prop
  | statement, rest => Settled rest
  | expression, rest => Settled rest
  | chain .sum, rest => rest.head?.any (isOperatorOf termOperators) = false
  | list _, rest => ∃ closing more, rest = closing :: more ∧ closing.isSymbol ")" = true
  | more _, rest => ∃ closing more, rest = closing :: more ∧ closing.isSymbol ")" = true
  | _, _ => True

/-- The reader of a phrase finds the trees of a derivation, unless it meets the bound. -/
def Phrase.Found (lastLine : UInt32) (free : Nat) :
    Phrase → List Token → List Node → List Token → Prop
  | statement, tokens, trees, rest =>
    ∀ node, trees = [node] → Gives (Grammar.statement lastLine free) tokens node rest
  | body ending, tokens, trees, rest =>
    Gives (block ending.stops (Grammar.statement lastLine free)) tokens trees rest
  | expression, tokens, trees, rest =>
    ∀ node, trees = [node] → Gives (Grammar.expression lastLine free) tokens node rest
  | chain level, tokens, trees, rest =>
    ∀ node, trees = [node] →
      Leads free level.signs (level.below lastLine free) tokens node rest
  | factor, tokens, trees, rest =>
    ∀ node, trees = [node] →
      (Grammar.factor (Grammar.expression lastLine free)).Gives tokens node rest
  | parameter, tokens, trees, rest =>
    ∃ found, (Item.parameter.reader lastLine free).Gives tokens found rest ∧
      Item.parameter.trees found = trees
  | list item, tokens, trees, rest =>
    ∃ found, (commaSeparated (item.reader lastLine free)).Gives tokens found rest ∧
      found.flatMap item.trees = trees
  | more item, tokens, trees, rest =>
    ∃ found, Gives (behindCommas (item.reader lastLine free)) tokens found rest ∧
      found.flatMap item.trees = trees

variable {lastLine : UInt32} {free : Nat} {tokens rest : List Token}

theorem Level.operand_gives {level : Level} {node : Node}
    (found : level.operand.Found lastLine free tokens [node] rest)
    (follow : (Phrase.chain level).Follow rest) :
    (level.below lastLine free).Gives tokens node rest := by
  cases level with
  | sum => exact (found node rfl).gives follow
  | product => exact found node rfl

theorem Phrase.arithmetic_gives {node : Node}
    (found : (Phrase.chain .sum).Found lastLine free tokens [node] rest)
    (stops : rest.head?.any (isOperatorOf arithmeticOperators) = false) :
    (Grammar.arithmetic free (Grammar.expression lastLine free)).Gives tokens node rest :=
  (found node rfl).gives stops

/-- An item of a list is read as the list reads it: an argument as it is, a parameter as a name. -/
theorem Item.phrase_gives {item : Item} {node : Node}
    (found : item.phrase.Found lastLine free tokens [node] rest) :
    ∃ element, (item.reader lastLine free).Gives tokens element rest ∧
      item.trees element = [node] := by
  cases item with
  | parameter => exact found
  | argument => exact ⟨node, found node rfl, rfl⟩

/-- No sign belongs to two levels, so each chain stops where another sign takes over. -/
theorem follow_of_sign {level : Level} {sign : Token} {more : List Token}
    (isSign : sign.text ∈ level.signs) : (Phrase.chain level).Follow (sign :: more) := by
  cases level with
  | sum =>
    simp only [Level.signs, List.mem_cons, List.not_mem_nil, or_false] at isSign
    rcases isSign with text | text <;>
      simp [Phrase.Follow, isOperatorOf, termOperators, text]
  | product => trivial

/-- Behind a sum a comparison sign may follow, which carries the sum no further. -/
theorem follow_of_comparison {sign : Token} {more : List Token}
    (isSign : sign.text ∈ comparisonSigns) :
    (Phrase.chain .sum).Follow (sign :: more) ∧
      (sign :: more).head?.any (isOperatorOf arithmeticOperators) = false := by
  simp only [comparisonSigns, List.mem_cons, List.not_mem_nil, or_false] at isSign
  rcases isSign with text | text | text | text | text | text <;>
    simp [Phrase.Follow, isOperatorOf, termOperators, arithmeticOperators, text]

theorem settled_of_symbol {token : Token} {mark : String} {more : List Token}
    (isMark : token.isSymbol mark = true) : Settled (token :: more) := by
  simp [Settled, Token.kind_of_isSymbol isMark]

/-- Behind an item of a list stands a comma or what follows the list, so the item is over. -/
theorem Derives.more_settled {item : Item} {trees : List Node}
    (derived : Derives (.more item) tokens trees rest) (follow : (Phrase.more item).Follow rest) :
    Settled tokens := by
  cases derived with
  | noMore =>
    obtain ⟨closing, more, rfl, closes⟩ := follow
    exact settled_of_symbol closes
  | more comma => exact settled_of_symbol comma

theorem Item.follow_of_settled (item : Item) (settled : Settled tokens) :
    item.phrase.Follow tokens := by
  cases item with
  | parameter => trivial
  | argument => exact settled

/-- An item does not begin with a closing parenthesis, so a list that goes on is not taken for
empty. -/
theorem Derives.item_starts {item : Item} {trees : List Node}
    (derived : Derives item.phrase tokens trees rest) :
    ∃ token more, tokens = token :: more ∧ token.isSymbol ")" = false := by
  cases item with
  | parameter =>
    change Derives .parameter tokens trees rest at derived
    cases derived with
    | parameter kind => exact ⟨_, _, rfl, by simp [Token.isSymbol, Token.is, kind]⟩
  | argument =>
    obtain ⟨token, more, same, starts⟩ := derived.starts rfl
    exact ⟨token, more, same, starts.not_closing⟩

theorem Level.operand_follow (level : Level) : level.operand.Follow rest := by
  cases level <;> trivial

/-- Whatever the grammar derives is found by the reader of the phrase. What stands inside is read
with one level less, so the bound varies along the derivation. -/
theorem Derives.found {phrase : Phrase} {trees : List Node}
    (derived : Derives phrase tokens trees rest) (follow : phrase.Follow rest)
    (lastLine : UInt32) (free : Nat) : phrase.Found lastLine free tokens trees rest := by
  induction derived generalizing free with
  | number kind =>
    rintro node ⟨⟩
    exact gives_number kind
  | string kind =>
    rintro node ⟨⟩
    exact gives_string kind
  | name kind alone =>
    rintro node ⟨⟩
    exact gives_name kind alone
  | call callable opens _ closes ih =>
    rintro node ⟨⟩
    obtain ⟨found, list, rfl⟩ := ih ⟨_, _, rfl, closes⟩ free
    have whole : found.flatMap Item.argument.trees = found := List.flatMap_singleton' found
    rw [whole]
    exact gives_call callable opens list closes
  | parenthesized opens _ closes ih =>
    rintro node ⟨⟩
    exact gives_parenthesized opens (ih (settled_of_symbol closes) free _ rfl) closes
  | @operand level _ _ _ _ ih =>
    rintro node ⟨⟩
    exact .first (Level.operand_gives (ih level.operand_follow free) follow)
  | @operation level _ _ _ _ _ _ _ kind isSign _ ih ih' =>
    rintro node ⟨⟩
    have left := ih (follow_of_sign isSign) free _ rfl
    have right := Level.operand_gives (ih' level.operand_follow free) follow
    exact left.next (isOperatorOf_iff.mpr ⟨kind, isSign⟩) right
  | arithmetic _ ih =>
    rintro node ⟨⟩
    have stops (operators : List String) := head_not_operator follow operators
    exact gives_expression (fun free => gives_arithmetic follow
      (Phrase.arithmetic_gives (ih (stops _) free) (stops _))) free
  | comparison _ kind isSign _ ih ih' =>
    rintro node ⟨⟩
    have stops (operators : List String) := head_not_operator follow operators
    obtain ⟨followLeft, stopsLeft⟩ := follow_of_comparison isSign
    exact gives_expression (fun free => gives_comparison
      (Phrase.arithmetic_gives (ih followLeft free) stopsLeft)
      (isOperatorOf_iff.mpr ⟨kind, isSign⟩)
      (Phrase.arithmetic_gives (ih' (stops _) free) (stops _))) free
  | @parameter name _ kind =>
    exact ⟨some name, gives_attempt (gives_expect (by simp [kind])), rfl⟩
  | noItems =>
    obtain ⟨closing, more, rfl, closes⟩ := follow
    exact ⟨[], gives_noItems closes, rfl⟩
  | @items item _ _ _ _ _ first others ih ih' =>
    obtain ⟨element, one, trees⟩ :=
      Item.phrase_gives (ih (item.follow_of_settled (others.more_settled follow)) free)
    obtain ⟨elements, many, trees'⟩ := ih' follow free
    obtain ⟨token, more, rfl, opens⟩ := first.item_starts
    exact ⟨element :: elements, gives_items opens one many, by simp [trees, trees']⟩
  | noMore =>
    obtain ⟨closing, more, rfl, closes⟩ := follow
    refine ⟨[], gives_noMore ?_, rfl⟩
    simp [Token.isSymbol, Token.is, (Token.is_iff.mp closes).2]
  | @more item _ _ _ _ _ _ comma _ others ih ih' =>
    obtain ⟨element, one, trees⟩ :=
      Item.phrase_gives (ih (item.follow_of_settled (others.more_settled follow)) free)
    obtain ⟨elements, many, trees'⟩ := ih' follow free
    exact ⟨element :: elements, gives_more comma one many, by simp [trees, trees']⟩
  | definition isDef identifier opens _ closes colon _ ih ih' =>
    rintro node ⟨⟩
    refine gives_statement (fun free => ?_) free
    obtain ⟨found, list, rfl⟩ := ih ⟨_, _, rfl, closes⟩ free
    have trees : found.flatMap Item.parameter.trees =
        (found.filterMap id).map Grammar.parameter := flatMap_parameter found
    rw [trees]
    exact gives_definition isDef identifier opens list closes colon (ih' trivial free)
  | conditional isIf _ colon _ alone ih ih' =>
    rintro node ⟨⟩
    exact gives_statement (fun free => gives_conditional isIf
      (ih (settled_of_symbol colon) free _ rfl) colon (ih' trivial free) alone) free
  | alternative isIf _ colon _ isElse colon' _ ih ih' ih'' =>
    rintro node ⟨⟩
    exact gives_statement (fun free => gives_alternative isIf
      (ih (settled_of_symbol colon) free _ rfl) colon (ih' trivial free) isElse colon'
      (ih'' trivial free)) free
  | bareReturn isReturn alone =>
    rintro node ⟨⟩
    exact gives_statement (fun free => gives_bareReturn isReturn alone) free
  | returnValue isReturn more _ ih =>
    rintro node ⟨⟩
    exact gives_statement (fun free => gives_returnValue isReturn more (ih follow free _ rfl)) free
  | assignment identifier equals _ ih =>
    rintro node ⟨⟩
    exact gives_statement (fun free => gives_assignment identifier equals (ih follow free _ rfl)) free
  | expression value ih =>
    rintro node ⟨⟩
    obtain ⟨token, tokens, rfl, starts⟩ := value.starts rfl
    refine gives_statement (fun free => gives_expressionStatement starts (fun identifier => ?_)
      (ih follow free _ rfl)) free
    cases tokens with
    | nil => rfl
    | cons sign more =>
      simp only [List.head?_cons, Option.any_some, Bool.eq_false_iff]
      intro equals
      have stop := value.before_equals rfl rfl identifier equals
      simp [Phrase.Follow, Settled, stop, Token.kind_of_isOperator equals] at follow
  | bodyEnd stops => exact gives_bodyEnd stops
  | bodyStatement goesOn first others ih ih' =>
    obtain ⟨token, more, rfl, -⟩ := first.statement_starts
    have given := ih others.body_settled free _ rfl
    exact gives_bodyStatement (by simpa using goesOn) (fun _ => statement_shorter) given
      (ih' follow free)

end Derivations

end SnippetCheck.Grammar

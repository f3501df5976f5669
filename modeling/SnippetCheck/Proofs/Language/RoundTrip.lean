import SnippetCheck.Proofs.Language.Acceptance
import SnippetCheck.Proofs.Token.Spacing
import SnippetCheck.Proofs.Tree.Lines

namespace SnippetCheck

open Lexeme

/-- How tightly an operator holds its operands: comparisons least, products most. -/
def strengthOf (sign : String) : Nat :=
  if sign ∈ Grammar.Level.product.signs then 2
  else if sign ∈ Grammar.Level.sum.signs then 1
  else 0

def expressionSigns : List String :=
  Grammar.comparisonSigns ++ Grammar.Level.sum.signs ++ Grammar.Level.product.signs

/-- A word that is not reserved. -/
def IsName (text : String) : Prop :=
  IsWord text.toList ∧ text ∉ reservedWords

/-- Lexemes in parentheses where these are needed. -/
def Lexeme.enclosed (needed : Bool) (lexemes : List Lexeme) : List Lexeme :=
  if needed then mark '(' :: (lexemes ++ [mark ')']) else lexemes

/-- No sign binds stronger than the signs of terms. -/
theorem strengthOf_le (sign : String) : strengthOf sign ≤ 2 := by
  unfold strengthOf
  split
  · rfl
  split <;> omega

namespace Node

/-- An expression is as strong as its operator. One without an operator does not come apart. -/
def strength : Node → Nat
  | mk .binaryOp sign _ _ => strengthOf sign
  | _ => 3

section Printing

variable (quote : String → Char)

mutual
/-- An expression as it is written down. Parentheses stand around a left operand that is weaker
than its operator, a right operand that is not stronger, and a comparison within an expression. -/
def lexemes : Node → List Lexeme
  | mk .binaryOp sign _ [left, right] =>
    enclosed (left.strength < strengthOf sign ∨ left.strength = 0) left.lexemes ++
      .sign sign :: enclosed (right.strength ≤ strengthOf sign) right.lexemes
  | mk .functionCall callee _ arguments =>
    word callee :: mark '(' :: (listLexemes arguments ++ [mark ')'])
  | mk .string text _ _ => [quoted (quote text) text]
  | mk .number text _ _ => [numeral text]
  | mk _ text _ _ => [word text]

def listLexemes : List Node → List Lexeme
  | [] => []
  | first :: others => first.lexemes ++ moreLexemes others

def moreLexemes : List Node → List Lexeme
  | [] => []
  | next :: others => mark ',' :: (next.lexemes ++ moreLexemes others)
end

/-- The source text that assigns an expression to a name. -/
def assignmentSource (name : String) (value : Node) : String :=
  spaced (word name :: .sign "=" :: value.lexemes quote)

end Printing

/-- The expressions that can be written down: operators with two operands, calls, names, numbers,
and the strings that some quote can enclose. -/
inductive IsPrintable : Node → Prop
  | number {text : String} {line : UInt32} : IsNumber text.toList →
      IsPrintable (leaf .number text line)
  | string {text : String} {line : UInt32} : (∃ quote, Fits quote text) →
      IsPrintable (leaf .string text line)
  | name {text : String} {line : UInt32} : IsName text → IsPrintable (leaf .identifier text line)
  | call {callee : String} {line : UInt32} {arguments : List Node} :
      IsName callee ∨ callee = "print" → (∀ argument ∈ arguments, IsPrintable argument) →
      IsPrintable (mk .functionCall callee line arguments)
  | operation {sign : String} {line : UInt32} {left right : Node} : sign ∈ expressionSigns →
      IsPrintable left → IsPrintable right → IsPrintable (binary sign line left right)

section Separable

variable {quote : String → Char} {node : Node} {nodes : List Node}

theorem separable_enclosed {lexemes : List Lexeme} (needed : Bool)
    (separable : ∀ lexeme ∈ lexemes, lexeme.Separable) :
    ∀ lexeme ∈ enclosed needed lexemes, lexeme.Separable := by
  rw [enclosed]
  split
  · simp only [List.forall_mem_cons, List.forall_mem_append]
    exact ⟨separable_mark (by decide), separable, separable_mark (by decide), nofun⟩
  · exact separable

theorem separable_moreLexemes
    (separable : ∀ node ∈ nodes, ∀ lexeme ∈ node.lexemes quote, lexeme.Separable) :
    ∀ lexeme ∈ moreLexemes quote nodes, lexeme.Separable := by
  induction nodes with
  | nil => nofun
  | cons next others ih =>
    obtain ⟨first, separable⟩ := List.forall_mem_cons.mp separable
    simp only [moreLexemes, List.forall_mem_cons, List.forall_mem_append]
    exact ⟨separable_mark (by decide), first, ih separable⟩

theorem separable_listLexemes
    (separable : ∀ node ∈ nodes, ∀ lexeme ∈ node.lexemes quote, lexeme.Separable) :
    ∀ lexeme ∈ listLexemes quote nodes, lexeme.Separable := by
  cases nodes with
  | nil => nofun
  | cons first others =>
    obtain ⟨first, separable⟩ := List.forall_mem_cons.mp separable
    simp only [listLexemes, List.forall_mem_append]
    exact ⟨first, separable_moreLexemes separable⟩

/-- The lexemes of a printable tree stay apart from one another when blanks stand between them. -/
theorem separable_lexemes (fitting : ∀ text, (∃ quote, Fits quote text) → Fits (quote text) text)
    (printable : node.IsPrintable) : ∀ lexeme ∈ node.lexemes quote, lexeme.Separable := by
  induction printable with
  | number isNumber => simpa [leaf, lexemes] using separable_numeral isNumber
  | string quotable => simpa [leaf, lexemes] using separable_quoted (fitting _ quotable)
  | name isName => simpa [leaf, lexemes] using separable_word isName.1
  | call callable _ ih =>
    have isWord := callable.elim And.left fun isPrint =>
      isPrint ▸ ⟨'p', "rint".toList, by decide, by decide, List.all_eq_true.mp (by decide)⟩
    simp only [lexemes, List.forall_mem_cons, List.forall_mem_append]
    exact ⟨separable_word isWord, separable_mark (by decide), separable_listLexemes ih,
      separable_mark (by decide), nofun⟩
  | @operation sign line left right isSign _ _ ih ih' =>
    have signs : ∀ sign ∈ expressionSigns, sign.toList ∈ operators := by decide
    simp only [binary, lexemes, List.forall_mem_append, List.forall_mem_cons]
    exact ⟨separable_enclosed _ ih, separable_sign (signs _ isSign), separable_enclosed _ ih'⟩

end Separable

end Node

namespace Grammar

/-- The phrases that may stand at a level of operators or at any below it. -/
def phraseAt : Nat → Phrase
  | 0 => .expression
  | 1 => .chain .sum
  | 2 => .chain .product
  | _ => .factor

/-- A phrase that binds stronger stands wherever a weaker one may. -/
theorem Derives.lower {low high : Nat} {tokens rest : List Token} {node : Node}
    (derived : Derives (phraseAt high) tokens [node] rest) (below : low ≤ high) :
    Derives (phraseAt low) tokens [node] rest := by
  induction below with
  | refl => exact derived
  | @step high _ ih =>
    refine ih ?_
    match high with
    | 0 => exact .arithmetic derived
    | 1 => exact .operand derived
    | 2 => exact .operand derived
    | _ + 3 => exact derived

/-- The lexemes are read as the tree, up to its lines, by the phrases at a level, whatever stands
behind them but an opening parenthesis. -/
def ReadAs (level : Nat) (lexemes : List Lexeme) (tree : Node) : Prop :=
  ∀ tokens more, List.Forall₂ Token.Holds tokens (lexemes ++ more) →
    (∀ lexeme ∈ more.head?, lexeme.kind = .symbol → lexeme.text ≠ ['(']) →
    ∃ found rest, Derives (phraseAt level) tokens [found] rest ∧
      List.Forall₂ Token.Holds rest more ∧ found.eraseLines = tree.eraseLines

section ReadAs

variable {low high : Nat} {lexemes lexemes' : List Lexeme} {tree tree' : Node} {text : String}

/-- What is read as a phrase that binds stronger is read as a weaker one too. -/
theorem ReadAs.lower (reads : ReadAs high lexemes tree) (below : low ≤ high) :
    ReadAs low lexemes tree := by
  intro tokens more held apart
  obtain ⟨found, rest, derived, held', same⟩ := reads tokens more held apart
  exact ⟨found, rest, derived.lower below, held', same⟩

theorem readAs_number (line : UInt32) : ReadAs 3 [numeral text] (.leaf .number text line) := by
  intro tokens more held _
  obtain ⟨token, rest, holds, behind, rfl⟩ := List.forall₂_cons_right_iff.mp held
  refine ⟨_, rest, .number holds.kind, behind, ?_⟩
  simp [Node.leaf, Node.eraseLines, holds.text, numeral, plain]

theorem readAs_string (quote : Char) (line : UInt32) :
    ReadAs 3 [quoted quote text] (.leaf .string text line) := by
  intro tokens more held _
  obtain ⟨token, rest, holds, behind, rfl⟩ := List.forall₂_cons_right_iff.mp held
  refine ⟨_, rest, .string holds.kind, behind, ?_⟩
  simp [Node.leaf, Node.eraseLines, holds.text, quoted]

theorem identifier_of_word {token : Token} (holds : token.Holds (word text))
    (free : text ∉ reservedWords) : token.kind = .identifier := by
  rw [holds.kind, word, if_neg (mt isReserved_iff.mp free)]
  rfl

theorem text_of_word {token : Token} (holds : token.Holds (word text)) : token.text = text := by
  simp [holds.text, word, plain]

theorem isSymbol_of_mark {token : Token} {c : Char} (holds : token.Holds (mark c)) :
    token.isSymbol (String.ofList [c]) = true :=
  Token.is_iff.mpr ⟨holds.kind, holds.text⟩

theorem readAs_name (free : text ∉ reservedWords) (line : UInt32) :
    ReadAs 3 [word text] (.leaf .identifier text line) := by
  intro tokens more held apart
  obtain ⟨token, rest, holds, behind, rfl⟩ := List.forall₂_cons_right_iff.mp held
  have noCall : rest.head?.any (·.isSymbol "(") = false := by
    cases behind with
    | nil => rfl
    | cons next _ =>
      rw [List.head?_cons, Option.any_some, Bool.eq_false_iff]
      intro opens
      obtain ⟨kind, text⟩ := Token.is_iff.mp opens
      refine apart _ rfl (next.kind.symm.trans kind) ?_
      rw [← String.ofList_inj, ← next.text, text]
  refine ⟨_, rest, .name (identifier_of_word holds free) noCall, behind, ?_⟩
  simp [Node.leaf, Node.eraseLines, text_of_word holds]

/-- Parentheses make a factor of any expression; without them it has to bind strong enough. -/
theorem ReadAs.enclosed {needed : Bool} (reads : ReadAs high lexemes tree)
    (tight : needed = false → low ≤ high) (bound : low ≤ 3) :
    ReadAs low (enclosed needed lexemes) tree := by
  cases needed with
  | false => exact reads.lower (tight rfl)
  | true =>
    suffices ReadAs 3 (mark '(' :: (lexemes ++ [mark ')'])) tree from this.lower bound
    intro tokens more held _
    rw [List.cons_append, List.append_assoc] at held
    obtain ⟨opening, inner, opens, behind, rfl⟩ := List.forall₂_cons_right_iff.mp held
    obtain ⟨found, _, derived, held', same⟩ :=
      reads.lower (Nat.zero_le high) inner (mark ')' :: more) behind (by simp [mark, plain])
    obtain ⟨closing, rest, closes, behind', rfl⟩ := List.forall₂_cons_right_iff.mp held'
    exact ⟨found, rest, .parenthesized (isSymbol_of_mark opens) derived (isSymbol_of_mark closes),
      behind', same⟩

/-- An operation leans to the left: its right side has to bind stronger than its sign. -/
theorem ReadAs.operation {sign : String} (isSign : sign ∈ expressionSigns) (line : UInt32)
    (left : ReadAs (max 1 (strengthOf sign)) lexemes tree)
    (right : ReadAs (strengthOf sign + 1) lexemes' tree') :
    ReadAs (strengthOf sign) (lexemes ++ .sign sign :: lexemes')
      (.binary sign line tree tree') := by
  intro tokens more held apart
  rw [List.append_assoc, List.cons_append] at held
  obtain ⟨found, _, derived, held', same⟩ :=
    left tokens (.sign sign :: (lexemes' ++ more)) held (by simp [Lexeme.sign, plain])
  obtain ⟨token, middle, holds, behind, rfl⟩ := List.forall₂_cons_right_iff.mp held'
  obtain ⟨found', rest, derived', behind', same'⟩ := right middle more behind apart
  have text : token.text = sign := by simp [holds.text, Lexeme.sign, plain]
  refine ⟨.binary token.text token.line found found', rest, ?_, behind', ?_⟩
  · rw [← text] at isSign derived derived' ⊢
    have levels : ∀ sign ∈ expressionSigns,
        strengthOf sign = 2 ∧ sign ∈ Level.product.signs ∨
          strengthOf sign = 1 ∧ sign ∈ Level.sum.signs ∨
          strengthOf sign = 0 ∧ sign ∈ comparisonSigns := by
      decide
    rcases levels _ isSign with ⟨strength, member⟩ | ⟨strength, member⟩ | ⟨strength, member⟩
    all_goals rw [strength] at derived derived' ⊢
    · exact .operation derived holds.kind member derived'
    · exact .operation derived holds.kind member derived'
    · exact .comparison derived holds.kind member derived'
  · simp [Node.binary, Node.eraseLines, Node.eraseLinesOfAll, same, same', text]

section Arguments

variable {quote : String → Char} {nodes : List Node} {tokens : List Token} {more : List Lexeme}

/-- Behind an argument no parenthesis opens, so a name there is not taken for a call. -/
theorem moreLexemes_apart : ∀ lexeme ∈ (Node.moreLexemes quote nodes ++ mark ')' :: more).head?,
    lexeme.kind = .symbol → lexeme.text ≠ ['('] := by
  cases nodes <;> simp [Node.moreLexemes, mark, plain]

/-- Arguments behind commas are read back, up to the closing parenthesis. -/
theorem derives_more (reads : ∀ node ∈ nodes, ReadAs 0 (node.lexemes quote) node)
    (held : List.Forall₂ Token.Holds tokens (Node.moreLexemes quote nodes ++ mark ')' :: more)) :
    ∃ found rest, Derives (.more .argument) tokens found rest ∧
      List.Forall₂ Token.Holds rest (mark ')' :: more) ∧
      Node.eraseLinesOfAll found = Node.eraseLinesOfAll nodes := by
  induction nodes generalizing tokens with
  | nil => exact ⟨[], tokens, .noMore, held, rfl⟩
  | cons next others ih =>
    obtain ⟨first, reads⟩ := List.forall_mem_cons.mp reads
    rw [Node.moreLexemes, List.cons_append, List.append_assoc] at held
    obtain ⟨comma, inner, isComma, behind, rfl⟩ := List.forall₂_cons_right_iff.mp held
    obtain ⟨found, middle, derived, held', same⟩ := first inner _ behind moreLexemes_apart
    obtain ⟨founds, rest, derived', held'', same'⟩ := ih reads held'
    exact ⟨found :: founds, rest, .more (isSymbol_of_mark isComma) derived derived', held'',
      congrArg₂ _ same same'⟩

theorem derives_list (reads : ∀ node ∈ nodes, ReadAs 0 (node.lexemes quote) node)
    (held : List.Forall₂ Token.Holds tokens (Node.listLexemes quote nodes ++ mark ')' :: more)) :
    ∃ found rest, Derives (.list .argument) tokens found rest ∧
      List.Forall₂ Token.Holds rest (mark ')' :: more) ∧
      Node.eraseLinesOfAll found = Node.eraseLinesOfAll nodes := by
  cases nodes with
  | nil => exact ⟨[], tokens, .noItems, held, rfl⟩
  | cons first others =>
    obtain ⟨first, reads⟩ := List.forall_mem_cons.mp reads
    rw [Node.listLexemes, List.append_assoc] at held
    obtain ⟨found, middle, derived, held', same⟩ := first tokens _ held moreLexemes_apart
    obtain ⟨founds, rest, derived', held'', same'⟩ := derives_more reads held'
    exact ⟨found :: founds, rest, .items derived derived', held'', congrArg₂ _ same same'⟩

end Arguments

/-- A call is read back with its arguments, which may be any expressions. -/
theorem readAs_call {quote : String → Char} {callee : String} {arguments : List Node}
    (callable : callee ∉ reservedWords ∨ callee = "print") (line : UInt32)
    (reads : ∀ argument ∈ arguments, ReadAs 0 (argument.lexemes quote) argument) :
    ReadAs 3 ((Node.mk .functionCall callee line arguments).lexemes quote)
      (.mk .functionCall callee line arguments) := by
  intro tokens more held _
  simp only [Node.lexemes, List.cons_append, List.append_assoc, List.nil_append] at held
  obtain ⟨token, _, holds, held', rfl⟩ := List.forall₂_cons_right_iff.mp held
  obtain ⟨opening, inner, opens, behind, rfl⟩ := List.forall₂_cons_right_iff.mp held'
  obtain ⟨founds, _, derived, held'', same⟩ := derives_list reads behind
  obtain ⟨closing, rest, closes, behind', rfl⟩ := List.forall₂_cons_right_iff.mp held''
  have called : token.kind = .identifier ∨ token.isKeyword "print" = true := by
    rcases callable with free | rfl
    · exact .inl (identifier_of_word holds free)
    · exact .inr (Token.is_iff.mpr ⟨holds.kind, text_of_word holds⟩)
  refine ⟨_, rest, .call called (isSymbol_of_mark opens) derived (isSymbol_of_mark closes),
    behind', ?_⟩
  simp [Node.eraseLines, text_of_word holds, same]

end ReadAs

/-- What is written down of an expression is read as it is. -/
theorem readAs_lexemes {quote : String → Char} {tree : Node} (printable : tree.IsPrintable) :
    ReadAs tree.strength (tree.lexemes quote) tree := by
  induction printable with
  | number => exact readAs_number _
  | string => exact readAs_string _ _
  | name isName => exact readAs_name isName.2 _
  | call callable _ ih =>
    exact readAs_call (callable.imp_left And.right) _ fun argument member =>
      (ih argument member).lower (Nat.zero_le _)
  | @operation sign line left right isSign _ _ ih ih' =>
    have bound : strengthOf sign ≤ 2 := strengthOf_le sign
    refine .operation isSign line (ih.enclosed (fun tight => ?_) (by omega))
      (ih'.enclosed (fun tight => ?_) (by omega))
    · rw [decide_eq_false_iff_not] at tight
      omega
    · rw [decide_eq_false_iff_not] at tight
      omega

/-- An assignment that is written down with spaces between its lexemes is accepted and read back,
for every way to choose quotes that fit, unless the bound on nesting is met. -/
theorem ofTokens_assignmentSource (quote : String → Char) (name : String) (value : Node)
    (fitting : ∀ text, (∃ quote, Fits quote text) → Fits (quote text) text)
    (isName : IsName name) (printable : value.IsPrintable)
    (shallow : ∀ line, .nestingTooDeep line ∉
      (parse (tokenize (value.assignmentSource quote name))).2) :
    (TreeReport.ofTokens (tokenize (value.assignmentSource quote name))).valid = true ∧
    (TreeReport.ofTokens (tokenize (value.assignmentSource quote name))).tree.eraseLines =
      (Node.program [.mk .assignment name 1 [value]]).eraseLines := by
  have separable : ∀ lexeme ∈ word name :: .sign "=" :: value.lexemes quote, lexeme.Separable :=
    List.forall_mem_cons.mpr ⟨separable_word isName.1, List.forall_mem_cons.mpr
      ⟨separable_sign (by decide), value.separable_lexemes fitting printable⟩⟩
  have held := tokenize_spaced separable
  rw [← Node.assignmentSource] at held
  generalize tokenize (value.assignmentSource quote name) = tokens at held shallow ⊢
  have significant := significantTokens_of_holds separable held
  obtain ⟨token, _, holds, held', rfl⟩ := List.forall₂_cons_right_iff.mp held
  obtain ⟨equals, inner, isEquals, behind, rfl⟩ := List.forall₂_cons_right_iff.mp held'
  obtain ⟨found, rest, derived, ended, same⟩ :=
    (readAs_lexemes printable).lower (Nat.zero_le _) inner [] (by simpa using behind) nofun
  cases ended
  have program : Program (significantTokens (token :: equals :: inner))
      [.mk .assignment token.text token.line [found]] := by
    rw [significant]
    exact .last (.assignment (identifier_of_word holds isName.2)
      (Token.is_iff.mpr ⟨isEquals.kind, isEquals.text⟩) derived)
  rcases program.statements (lastLine (significantTokens (token :: equals :: inner)))
    maxNestingDepth with descent | ⟨line, member⟩
  · rw [valid_iff, tree_eq_descend, descend, descent]
    refine ⟨⟨by simp [significant], rfl⟩, ?_⟩
    simp [Node.program, Node.eraseLines, Node.eraseLinesOfAll, text_of_word holds, same]
  · exact absurd (descend_faults_subset member) (shallow line)

/-- `( a - ( b - 1.5 ) ) * f ( "it's" , print ( ) ) == "x"` as a tree. -/
def quotingTree : Node :=
  .binary "==" 1
    (.binary "*" 1
      (.binary "-" 1 (.leaf .identifier "a" 1)
        (.binary "-" 1 (.leaf .identifier "b" 1) (.leaf .number "1.5" 1)))
      (.mk .functionCall "f" 1 [.leaf .string "it's" 1, .mk .functionCall "print" 1 []]))
    (.leaf .string "x" 1)

theorem quotingTree_isPrintable : quotingTree.IsPrintable := by
  have isName (c : Char) (start : isWordStart c = true) (free : String.ofList [c] ∉ reservedWords) :
      IsName (String.ofList [c]) :=
    ⟨⟨c, [], String.toList_ofList, start, nofun⟩, free⟩
  have isNumber : IsNumber "1.5".toList :=
    show IsNumber (['1'] ++ '.' :: ['5']) from
      .point (by decide) (by simp [IsDigits]) (by simp [IsDigits])
  have fits (text : String) (shielded : (untilQuote '"' (text.toList ++ ['"'])).2 = ['"']) :
      ∃ quote, Fits quote text :=
    ⟨'"', .inl rfl, (shielded_iff (.inl rfl)).mpr shielded⟩
  refine .operation (by decide) (.operation (by decide) (.operation (by decide) ?_
    (.operation (by decide) ?_ ?_)) ?_) ?_
  · exact .name (isName 'a' (by decide) (by decide))
  · exact .name (isName 'b' (by decide) (by decide))
  · exact .number isNumber
  · refine .call (.inl (isName 'f' (by decide) (by decide))) ?_
    simp only [List.forall_mem_cons]
    exact ⟨.string (fits _ (by decide)), .call (.inr rfl) nofun, nofun⟩
  · exact .string (fits _ (by decide))

theorem ofTokens_assignmentSource_quoting :
    IsName "v" ∧ quotingTree.IsPrintable ∧
    quotingTree.assignmentSource quoteFor "v" =
      "v = ( a - ( b - 1.5 ) ) * f ( \"it's\" , print ( ) ) == \"x\"" ∧
    (∀ line, .nestingTooDeep line ∉
      (parse (tokenize (quotingTree.assignmentSource quoteFor "v"))).2) ∧
    (TreeReport.ofTokens (tokenize (quotingTree.assignmentSource quoteFor "v"))).valid = true ∧
    (TreeReport.ofTokens
        (tokenize (quotingTree.assignmentSource quoteFor "v"))).tree.eraseLines =
      (Node.program [.mk .assignment "v" 1 [quotingTree]]).eraseLines := by
  have isName : IsName "v" := ⟨⟨'v', [], by decide, by decide, nofun⟩, by decide⟩
  have silent : (parse (tokenize (quotingTree.assignmentSource quoteFor "v"))).2 = [] := by
    decide +kernel
  have shallow : ∀ line, .nestingTooDeep line ∉
      (parse (tokenize (quotingTree.assignmentSource quoteFor "v"))).2 := by
    simp [silent]
  exact ⟨isName, quotingTree_isPrintable, by decide +kernel, shallow,
    ofTokens_assignmentSource quoteFor "v" quotingTree (fun _ => fits_quoteFor) isName
      quotingTree_isPrintable shallow⟩

end Grammar
end SnippetCheck

import Mathlib.Data.List.Basic
import SnippetCheck.Proofs.Tree.Provenance
import SnippetCheck.Proofs.Tree.Roles

namespace SnippetCheck.Grammar

/-- A comma or the end of a list. -/
def endsItem (token : Token) : Bool :=
  token.isSymbol "," || token.isSymbol ")"

/-- Where a phrase can stand: parameters in a signature, all else outside. -/
def Phrase.Fits : Phrase → List Token → Prop
  | parameter => Inside
  | list .parameter => Inside
  | more .parameter => Inside
  | _ => Outside

/-- What can follow a phrase. No expression is followed by an equals sign, and no parameter by
anything but another one or the end of the signature. -/
def Phrase.allows : Phrase → Token → Bool
  | parameter => endsItem
  | list _ => endsItem
  | more _ => endsItem
  | body _ => fun _ => true
  | _ => fun token => !token.isOperator "="

variable {tokens rest : List Token} {trees : List Node} {token : Token}

theorem not_is_of_endsItem (ends : endsItem token = true) :
    token.isOperator "=" = false ∧ token.isSymbol "(" = false := by
  rcases Bool.or_eq_true_iff.mp ends with comma | closes
  · exact ⟨Token.not_is comma (by decide), Token.not_is comma (by decide)⟩
  · exact ⟨Token.not_is closes (by decide), Token.not_is closes (by decide)⟩

theorem Item.allows_of_endsItem (item : Item) (ends : tokens.head?.all endsItem = true) :
    tokens.head?.all item.phrase.allows = true := by
  cases tokens with
  | nil => rfl
  | cons token tokens =>
    have ends : endsItem token = true := ends
    cases item with
    | parameter => exact ends
    | argument => simp [Item.phrase, Phrase.allows, not_is_of_endsItem ends]

/-- Behind a statement that is over stands no sign that would make a name a target or a call. -/
theorem Settled.allows (settled : Settled rest) :
    rest.head?.all Phrase.statement.allows = true := by
  cases rest with
  | nil => rfl
  | cons token rest =>
    have other : token.kind ≠ .operator := by simpa [Settled] using settled
    simp [Phrase.allows, Token.isOperator, Token.is, other]

/-- Behind an item stands a comma or what ends the list. -/
theorem Derives.more_follows {item : Item} (derived : Derives (.more item) tokens trees rest)
    (follows : rest.head?.all endsItem = true) : tokens.head?.all endsItem = true := by
  cases derived with
  | noMore => exact follows
  | more comma => simp [endsItem, comma]

/-- Behind an opening parenthesis comes a closing one if there are no arguments, and otherwise
something else. -/
theorem Derives.arguments_shown {closing : Token}
    (derived : Derives (.list .argument) tokens trees (closing :: rest))
    (closes : closing.isSymbol ")" = true) :
    tokens.head?.any (!·.isSymbol ")") = !trees.isEmpty := by
  cases derived with
  | noItems => simp [closes]
  | items first =>
    obtain ⟨token, more, rfl, starts⟩ := first.item_starts
    simp [starts]

section Makes

variable {before : List Token}

/-- A name that stands alone outside of signatures is read. -/
theorem makes_name (kind : token.kind = .identifier) (outside : Outside before)
    (alone : rest.head?.any (·.isSymbol "(") = false)
    (follows : rest.head?.all Phrase.factor.allows = true) :
    Place.Makes ⟨before, token, rest⟩ (.leaf .identifier token.text token.line) := by
  have unassigned : rest.head?.any (·.isOperator "=") = false := by
    cases rest with
    | nil => rfl
    | cons next rest => simpa [Phrase.allows] using follows
  refine ⟨⟨rfl, kind, rfl⟩, fun _ => ?_, ?_, nofun⟩
  · rw [outside.kinds, unassigned]
    rfl
  · rw [Place.isCall, Place.opensCall, alone, Bool.and_false]
    rfl

/-- A name or `print` before a parenthesis is called, with its arguments or without. -/
theorem makes_call {opening closing : Token} (outside : Outside before)
    (callable : token.kind = .identifier ∨ token.isKeyword "print" = true)
    (opens : opening.isSymbol "(" = true)
    (arguments : Derives (.list .argument) tokens trees (closing :: rest))
    (closes : closing.isSymbol ")" = true) :
    Place.Makes ⟨before, token, opening :: tokens⟩
      (.mk .functionCall token.text token.line trees) := by
  have unassigned : opening.isOperator "=" = false := Token.not_is opens (by decide)
  refine ⟨⟨rfl, callable, rfl⟩, fun _ => ?_, ?_, fun _ => arguments.arguments_shown closes⟩
  · rw [outside.kinds, List.head?_cons, Option.any_some, unassigned]
    rfl
  · rw [Place.isCall, Place.opensCall, Place.followsDef, outside.first]
    rcases callable with kind | print <;> simp [*, Node.kind]

/-- A name in a signature is a parameter. -/
theorem makes_parameter (kind : token.kind = .identifier) (inside : Inside before)
    (follows : rest.head?.all endsItem = true) :
    Place.Makes ⟨before, token, rest⟩ (.leaf .parameter token.text token.line) := by
  have next : rest.head?.any (·.isOperator "=") = false ∧
      rest.head?.any (·.isSymbol "(") = false := by
    cases rest with
    | nil => exact ⟨rfl, rfl⟩
    | cons next rest => exact not_is_of_endsItem follows
  refine ⟨⟨rfl, kind, rfl⟩, fun _ => ?_, ?_, nofun⟩
  · rw [Place.kinds, Place.followsDef, Place.isAssigned, inside.first, inside.signature, next.1]
    rfl
  · rw [Place.isCall, Place.opensCall, next.2, Bool.and_false]
    rfl

/-- A name behind a `def` is that of the function. -/
theorem makes_definition {keyword opening : Token} (outside : Outside before)
    (isDef : keyword.isKeyword "def" = true) (kind : token.kind = .identifier)
    (opens : opening.isSymbol "(" = true) :
    Place.Makes ⟨keyword :: before, token, opening :: tokens⟩
      (.mk .functionDef token.text token.line trees) := by
  have noOpening : keyword.isSymbol "(" = false := Token.not_is isDef (by decide)
  have unassigned : opening.isOperator "=" = false := Token.not_is opens (by decide)
  refine ⟨⟨rfl, kind, rfl⟩, fun _ => ?_, ?_, nofun⟩
  · simp [Place.kinds, Place.followsDef, Place.isAssigned, inSignature, isDef, noOpening,
      outside.signature, unassigned, Node.kind, NodeKind.defines]
  · simp [Place.isCall, Place.followsDef, isDef, Node.kind]

/-- A name before the sign is assigned to. -/
theorem makes_assignment {sign : Token} {value : Node} (kind : token.kind = .identifier)
    (outside : Outside before) (equals : sign.isOperator "=" = true) :
    Place.Makes ⟨before, token, sign :: tokens⟩
      (.mk .assignment token.text token.line [value]) := by
  have noOpening : sign.isSymbol "(" = false := Token.not_is equals (by decide)
  refine ⟨⟨rfl, kind, rfl⟩, fun _ => ?_, ?_, nofun⟩
  · rw [outside.kinds, List.head?_cons, Option.any_some, equals]
    rfl
  · simp [Place.isCall, Place.opensCall, noOpening, Node.kind]

theorem makes_keyword {node : Node} {word : String}
    (carries : token.Carries node) (isWord : token.isKeyword word = true) (other : word ≠ "print") :
    Place.Makes ⟨before, token, rest⟩ node :=
  Place.makes_of_other carries (by simp [Token.kind_of_isKeyword isWord])
    (Token.not_isKeyword_of_ne isWord other)

end Makes

/-- Whatever phrase is derived, the places it passes show its nodes. What comes before them stays
outside of signatures, save for what a definition has between its parentheses. -/
theorem Derives.marks {phrase : Phrase} (derived : Derives phrase tokens trees rest)
    (follows : rest.head?.all phrase.allows = true) {before : List Token}
    (fits : phrase.Fits before) : Marks phrase.Fits before tokens trees rest := by
  have ofKind {token : Token} {kind : TokenKind} (same : token.kind = kind)
      (noKeyword : kind ≠ .keyword) (word : String) : token.isKeyword word = false :=
    Token.not_isKeyword_of_kind (by simpa [same] using noKeyword) word
  have ofName {token : Token} (kind : token.kind = .identifier) : token.isCarrier = true :=
    Token.isCarrier_of_plain kind (by decide)
  have ofSymbol {token : Token} {mark : String} (isMark : token.isSymbol mark = true) :
      token.isCarrier = false := Token.not_isCarrier_of_symbol isMark
  have noDef {token : Token} {mark : String} (isMark : token.isSymbol mark = true) :
      token.isKeyword "def" = false := Token.not_isKeyword_of_isSymbol isMark "def"
  have allowed {token : Token} {mark : String} (isMark : token.isSymbol mark = true)
      (more : List Token) : (token :: more).head?.all Phrase.expression.allows = true := by
    have other : token.isOperator "=" = false := Token.not_is isMark (.inl (by decide))
    simp [Phrase.allows, other]
  have anything {ending : Ending} (tokens : List Token) :
      tokens.head?.all (Phrase.body ending).allows = true := by
    cases tokens <;> rfl
  induction derived generalizing before with
  | number kind =>
    have noKeyword := ofKind kind (by decide)
    exact (Marks.nothing (fits.push (noKeyword _))).above (by decide) (by decide)
      (Token.isCarrier_of_plain kind (by decide))
      (Place.makes_of_other ⟨rfl, kind, rfl⟩ (by simp [kind]) (noKeyword _))
  | string kind =>
    have noKeyword := ofKind kind (by decide)
    exact (Marks.nothing (fits.push (noKeyword _))).above (by decide) (by decide)
      (Token.isCarrier_of_plain kind (by decide))
      (Place.makes_of_other ⟨rfl, kind, rfl⟩ (by simp [kind]) (noKeyword _))
  | name kind alone =>
    exact (Marks.nothing (fits.push (ofKind kind (by decide) _))).above (by decide) (by decide)
      (ofName kind) (makes_name kind fits alone follows)
  | @call callee _ _ _ _ _ callable opens list closes ih =>
    have callee : callee.isCarrier = true ∧ callee.isKeyword "def" = false := by
      rcases callable with kind | print
      · exact ⟨ofName kind, ofKind kind (by decide) _⟩
      · exact ⟨Token.isCarrier_of_keyword print (by decide) (by decide),
          Token.not_isKeyword_of_ne print (by decide)⟩
    have inner := ih (by simp [Phrase.allows, endsItem, closes])
      ((fits.push callee.2).push (noDef opens))
    exact ((inner.pass (ofSymbol closes) (·.push (noDef closes))).behind (ofSymbol opens)).above
      (by decide) (by decide) callee.1 (makes_call fits callable opens list closes)
  | parenthesized opens _ closes ih =>
    have inner := ih (allowed closes _) (fits.push (noDef opens))
    exact (inner.pass (ofSymbol closes) (·.push (noDef closes))).behind (ofSymbol opens)
  | @operand level _ _ _ _ ih => cases level <;> exact ih follows fits
  | @operation level _ _ _ _ _ _ _ kind isSign _ ih ih' =>
    have text := Level.sign_ne_equals isSign
    have left := ih (by simp [Phrase.allows, Token.isOperator, Token.is, text]) fits
    refine left.between (fun {before'} outside => ?_) kind text
    have pushed : Outside (_ :: before') := Outside.push outside (ofKind kind (by decide) "def")
    cases level <;> exact ih' follows pushed
  | arithmetic _ ih => exact ih follows fits
  | comparison _ kind isSign _ ih ih' =>
    have text := comparisonSign_ne_equals isSign
    have left := ih (by simp [Phrase.allows, Token.isOperator, Token.is, text]) fits
    exact left.between (fun outside => ih' follows (outside.push (ofKind kind (by decide) "def")))
      kind text
  | @parameter name _ kind =>
    have goesOn : name.endsSignature = false :=
      Token.not_endsSignature_of_kind (by simp [kind])
    exact (Marks.nothing (fits.push goesOn (ofKind kind (by decide) _))).above (by decide)
      (by decide) (ofName kind) (makes_parameter kind fits follows)
  | noItems => exact .nothing fits
  | @items item _ _ _ _ _ _ others ih ih' =>
    have first := @ih (item.allows_of_endsItem (others.more_follows follows))
    cases item <;> exact (first fits).append fun fits => ih' follows fits
  | noMore => exact .nothing fits
  | @more item _ _ _ _ _ _ comma _ others ih ih' =>
    have first := @ih (item.allows_of_endsItem (others.more_follows follows))
    refine Marks.behind (ofSymbol comma) ?_
    cases item with
    | parameter =>
      have goesOn := Token.not_endsSignature_of_mark comma (by decide)
      have pushed := Inside.push fits goesOn (noDef comma)
      exact (first pushed).append fun fits => ih' follows fits
    | argument =>
      have pushed := Outside.push fits (noDef comma)
      exact (first pushed).append fun fits => ih' follows fits
  | @definition _ token _ _ _ _ _ _ _ _ isDef name opens _ closes isColon _ ih ih' =>
    have opened : Inside (_ :: token :: _ :: before) := inside_signature isDef opens
    have signature := ih (by simp [Phrase.allows, endsItem, closes]) opened
    have closed := signature.pass (ofSymbol closes) (·.close closes)
    have whole := (closed.pass (ofSymbol isColon) (·.push (noDef isColon))).append
      (ih' (anything _))
    refine Marks.behind (Token.not_isCarrier_of_def isDef) ?_
    exact (whole.behind (ofSymbol opens)).above (by decide) (by decide) (ofName name)
      (makes_definition fits isDef name opens)
  | conditional isIf _ isColon _ _ ih ih' =>
    have condition := ih (allowed isColon _)
      (fits.push (Token.not_isKeyword_of_ne isIf (by decide)))
    have opened := condition.pass (ofSymbol isColon) (·.push (noDef isColon))
    have whole := opened.append (ih' (anything _))
    exact whole.above (by decide) (by decide)
      (Token.isCarrier_of_keyword isIf (by decide) (by decide))
      (makes_keyword ⟨rfl, isIf, rfl⟩ isIf (by decide))
  | alternative isIf _ isColon _ isElse isColon' _ ih ih' ih'' =>
    have condition := ih (allowed isColon _)
      (fits.push (Token.not_isKeyword_of_ne isIf (by decide)))
    have opened := condition.pass (ofSymbol isColon) (·.push (noDef isColon))
    have thenBody := (opened.append (ih' (anything _))).pass (Token.not_isCarrier_of_else isElse)
      (·.push (Token.not_isKeyword_of_ne isElse (by decide)))
    have other := thenBody.pass (ofSymbol isColon') (·.push (noDef isColon'))
    have whole := other.append (ih'' (anything _))
    rw [List.append_assoc] at whole
    exact whole.above (by decide) (by decide)
      (Token.isCarrier_of_keyword isIf (by decide) (by decide))
      (makes_keyword ⟨rfl, isIf, rfl⟩ isIf (by decide))
  | bareReturn isReturn =>
    exact (Marks.nothing (fits.push (Token.not_isKeyword_of_ne isReturn (by decide)))).above
      (by decide) (by decide) (Token.isCarrier_of_keyword isReturn (by decide) (by decide))
      (makes_keyword ⟨rfl, isReturn, rfl⟩ isReturn (by decide))
  | returnValue isReturn _ _ ih =>
    have value := ih follows (fits.push (Token.not_isKeyword_of_ne isReturn (by decide)))
    exact value.above (by decide) (by decide)
      (Token.isCarrier_of_keyword isReturn (by decide) (by decide))
      (makes_keyword ⟨rfl, isReturn, rfl⟩ isReturn (by decide))
  | assignment name sign _ ih =>
    have value := ih follows ((fits.push (ofKind name (by decide) _)).push
      (ofKind (Token.kind_of_isOperator sign) (by decide) _))
    exact (value.behind (Token.not_isCarrier_of_equals sign)).above (by decide) (by decide)
      (ofName name) (makes_assignment name fits sign)
  | expression _ ih => exact ih follows fits
  | bodyEnd => exact .nothing fits
  | bodyStatement _ _ others ih ih' =>
    exact (ih others.body_settled.allows fits).append fun fits => ih' follows fits

theorem Program.marks (program : Program tokens trees) {before : List Token}
    (outside : Outside before) : Marks Outside before tokens trees [] := by
  induction program generalizing before with
  | last only => exact only.marks rfl outside
  | next first others ih => exact (first.marks others.settled.allows outside).append ih

/-- In a program without faults every node comes from a place that shows what the node is. -/
theorem places_make (valid : (TreeReport.ofTokens tokens).valid = true) :
    List.Forall₂ Place.Makes
      ((places [] (significantTokens tokens)).filter (·.token.isCarrier))
      (TreeReport.ofTokens tokens).tree.readingOrder := by
  obtain ⟨nonempty, silent⟩ := valid_iff.mp valid
  obtain ⟨before, made, -, split, makes⟩ := (descend_program nonempty silent).marks outside_nil
  rw [tree_eq_descend, Node.readingOrder_program]
  rw [carriers, carriers, places, List.filter_nil, List.append_nil] at split
  exact split ▸ makes

/-- In a program without faults, every token that becomes a node becomes one of its role. -/
theorem exists_makes {index : Nat} (valid : (TreeReport.ofTokens tokens).valid = true)
    (found : tokens[index]? = some token) (significant : token.isSignificant = true)
    (carrier : token.isCarrier = true) :
    ∃ node, (Neighbours.placeAt tokens (index, token)).Makes node := by
  have member : Neighbours.placeAt tokens (index, token) ∈
      (places [] (significantTokens tokens)).filter (·.token.isCarrier) := by
    rw [← Neighbours.map_placeAt_indexed]
    exact List.mem_filter.mpr ⟨List.mem_map.mpr ⟨(index, token),
      List.mem_filter.mpr ⟨Neighbours.mem_indexed_iff.mpr found, significant⟩, rfl⟩, carrier⟩
  have makes := (places_make valid).imp fun place node makes =>
    (⟨⟨node, makes⟩, makes⟩ : (∃ node, place.Makes node) ∧ place.Makes node)
  exact ((List.forall₂_and_left _ _).mp makes).1 _ member

/-- Whatever can be told both of the places and of the nodes they make, is told in the same order
by the tokens and by the tree. -/
theorem flatMap_places_eq {β : Type} {look : Place → List β} {pick : Node → Option β}
    (valid : (TreeReport.ofTokens tokens).valid = true)
    (idle : ∀ place : Place, place.token.isCarrier = false → look place = [])
    (made : ∀ place node, Place.Makes place node → look place = (pick node).toList)
    (noRoot : ∀ node : Node, node.kind = .program → pick node = none)
    (noOperator : ∀ node : Node, node.kind = .binaryOp → pick node = none) :
    (places [] (significantTokens tokens)).flatMap look =
      (TreeReport.ofTokens tokens).tree.preOrder.filterMap pick := by
  have carried (all : List Place) :
      all.flatMap look = (all.filter (·.token.isCarrier)).flatMap look := by
    induction all with
    | nil => rfl
    | cons place all ih =>
      cases carrier : place.token.isCarrier <;> simp [carrier, ih, idle]
  have paired {all : List Place} {nodes : List Node} (makes : List.Forall₂ Place.Makes all nodes) :
      all.flatMap look = nodes.filterMap pick := by
    rw [List.filterMap_eq_flatMap_toList]
    induction makes with
    | nil => rfl
    | cons makes _ ih => rw [List.flatMap_cons, List.flatMap_cons, ih, made _ _ makes]
  rw [carried, paired (places_make valid), Node.preOrder_filterMap noRoot noOperator]

end SnippetCheck.Grammar

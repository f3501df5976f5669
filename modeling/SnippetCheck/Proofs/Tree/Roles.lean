import Mathlib.Data.List.Forall2
import SnippetCheck.Proofs.Symbol.Log
import SnippetCheck.Proofs.Token.Signature

namespace SnippetCheck

namespace Place

def followsDef (place : Place) : Bool :=
  place.before.head?.any (·.isKeyword "def")

def opensCall (place : Place) : Bool :=
  place.after.head?.any (·.isSymbol "(")

def isAssigned (place : Place) : Bool :=
  place.after.head?.any (·.isOperator "=")

/-- Something other than a closing parenthesis comes second after the place. -/
def hasArguments (place : Place) : Bool :=
  place.after.tail.head?.any (!·.isSymbol ")")

/-- The kinds of definition that a name at this place looks like. -/
def kinds (place : Place) : List SymbolKind :=
  (if place.followsDef then [.function] else []) ++
    (if inSignature place.before then [.parameter] else []) ++
    (if place.isAssigned then [.assigned] else [])

/-- The place looks like that of the name in a call. -/
def isCall (place : Place) : Bool :=
  (place.token.kind == .identifier || place.token.isKeyword "print") && place.opensCall &&
    !place.followsDef

/-- A node comes from the token at a place, and what stands around the token shows what the node
defines and whether it is a call, with or without arguments. -/
structure Makes (place : Place) (node : Node) : Prop where
  carries : place.token.Carries node
  kinds : place.token.kind = .identifier → place.kinds = node.kind.defines.toList
  isCall : place.isCall = (node.kind == .functionCall)
  hasArguments : node.kind = .functionCall → place.hasArguments = !node.children.isEmpty

/-- A node that is made of no name has no role of a name. -/
theorem makes_of_other {place : Place} {node : Node} (carries : place.token.Carries node)
    (noName : place.token.kind ≠ .identifier) (noPrint : place.token.isKeyword "print" = false) :
    place.Makes node := by
  have noCall : node.kind ≠ .functionCall := by
    intro call
    have callable := carries.2
    simp [call, noName, noPrint] at callable
  refine ⟨carries, fun name => absurd name noName, ?_, fun call => absurd call noCall⟩
  rw [isCall, noPrint, beq_eq_false_iff_ne.mpr noName, beq_eq_false_iff_ne.mpr noCall]
  rfl

end Place

/-- No signature is open before a place, and no `def` is so near that one could begin there. -/
structure Outside (before : List Token) : Prop where
  signature : inSignature before = false
  first : before.head?.any (·.isKeyword "def") = false
  second : before.tail.head?.any (·.isKeyword "def") = false

/-- A signature is open before a place. -/
structure Inside (before : List Token) : Prop where
  signature : inSignature before = true
  first : before.head?.any (·.isKeyword "def") = false

section Contexts

variable {before after : List Token} {token : Token}

theorem outside_nil : Outside [] :=
  ⟨rfl, rfl, rfl⟩

/-- Only a `def` leads into a signature. -/
theorem Outside.push (outside : Outside before) (noDef : token.isKeyword "def" = false) :
    Outside (token :: before) := by
  refine ⟨?_, noDef, outside.first⟩
  rw [inSignature, outside.second, outside.signature, Bool.and_false, Bool.or_false, Bool.and_false]

/-- Outside of signatures a name is defined by the sign behind it alone. -/
theorem Outside.kinds (outside : Outside before) :
    Place.kinds ⟨before, token, after⟩ =
      if after.head?.any (·.isOperator "=") then [.assigned] else [] := by
  rw [Place.kinds, Place.followsDef, outside.first, outside.signature]
  rfl

/-- Two tokens behind a `def` a signature is open. -/
theorem inside_signature {keyword name opening : Token} (isDef : keyword.isKeyword "def" = true)
    (opens : opening.isSymbol "(" = true) : Inside (opening :: name :: keyword :: before) := by
  refine ⟨?_, Token.not_isKeyword_of_isSymbol opens "def"⟩
  simp [inSignature, Token.not_endsSignature_of_mark opens (by decide), opens, isDef]

theorem Inside.push (inside : Inside before) (goesOn : token.endsSignature = false)
    (noDef : token.isKeyword "def" = false) : Inside (token :: before) := by
  refine ⟨?_, noDef⟩
  rw [inSignature, goesOn, inside.signature, Bool.or_true]
  rfl

/-- A signature ends at its closing parenthesis. -/
theorem Inside.close (inside : Inside before) (closes : token.isSymbol ")" = true) :
    Outside (token :: before) := by
  refine ⟨?_, Token.not_isKeyword_of_isSymbol closes "def", inside.first⟩
  simp [inSignature, Token.endsSignature, closes]

end Contexts

/-- The places of the tokens that make a node. -/
def carriers (before tokens : List Token) : List Place :=
  (places before tokens).filter (·.token.isCarrier)

/-- From tokens that come after `before`, trees are read up to `rest`: the places passed make their
nodes in order, and what then comes before `rest` is as `fits` says. -/
def Marks (fits : List Token → Prop) (before tokens : List Token) (trees : List Node)
    (rest : List Token) : Prop :=
  ∃ before' made, fits before' ∧ carriers before tokens = made ++ carriers before' rest ∧
    List.Forall₂ Place.Makes made (Node.readingOrderOfAll trees)

namespace Marks

variable {fits fits' : List Token → Prop} {before tokens middle rest : List Token}
  {trees trees' : List Node} {token : Token}

theorem nothing (fitting : fits before) : Marks fits before tokens [] tokens :=
  ⟨before, [], fitting, rfl, .nil⟩

/-- Marks of parts that follow one another are the marks of both. -/
theorem append (first : Marks fits before tokens trees middle)
    (others : ∀ {before'}, fits before' → Marks fits' before' middle trees' rest) :
    Marks fits' before tokens (trees ++ trees') rest := by
  obtain ⟨before', made, fitting, split, makes⟩ := first
  obtain ⟨before'', made', fitting', split', makes'⟩ := others fitting
  refine ⟨before'', made ++ made', fitting', by rw [split, split', List.append_assoc], ?_⟩
  rw [Node.readingOrderOfAll_append]
  exact List.rel_append makes makes'

theorem carriers_idle (idle : token.isCarrier = false) :
    carriers before (token :: tokens) = carriers (token :: before) tokens := by
  simp [carriers, places, idle]

theorem carriers_cons (carrier : token.isCarrier = true) :
    carriers before (token :: tokens) =
      ⟨before, token, tokens⟩ :: carriers (token :: before) tokens := by
  simp [carriers, places, carrier]

theorem behind (idle : token.isCarrier = false)
    (later : Marks fits (token :: before) tokens trees rest) :
    Marks fits before (token :: tokens) trees rest := by
  rwa [Marks, carriers_idle idle]

/-- A token that becomes no node may stand between. -/
theorem pass (first : Marks fits before tokens trees (token :: rest))
    (idle : token.isCarrier = false) (next : ∀ {before'}, fits before' → fits' (token :: before')) :
    Marks fits' before tokens trees rest := by
  obtain ⟨before', made, fitting, split, makes⟩ := first
  exact ⟨token :: before', made, next fitting, by rw [split, carriers_idle idle], makes⟩

/-- A node stands at the token it is made from, before those of its children. -/
theorem above {kind : NodeKind} {value : String} {line : UInt32}
    (below : Marks fits (token :: before) tokens trees rest) (noRoot : kind ≠ .program)
    (prefixed : kind ≠ .binaryOp) (carrier : token.isCarrier = true)
    (makes : Place.Makes ⟨before, token, tokens⟩ (.mk kind value line trees)) :
    Marks fits before (token :: tokens) [.mk kind value line trees] rest := by
  obtain ⟨before', made, fitting, split, makes'⟩ := below
  refine ⟨before', _ :: made, fitting, by rw [carriers_cons carrier, split, List.cons_append], ?_⟩
  rw [Node.readingOrderOfAll, Node.readingOrder_before_children noRoot prefixed,
    Node.readingOrderOfAll, List.append_nil]
  exact .cons makes makes'

/-- An operation stands at its sign, between those of its operands. -/
theorem between {sign : Token} {left right : Node}
    (first : Marks fits before tokens [left] (sign :: middle))
    (second : ∀ {before'}, fits before' → Marks fits' (sign :: before') middle [right] rest)
    (kind : sign.kind = .operator) (text : sign.text ≠ "=") :
    Marks fits' before tokens [.binary sign.text sign.line left right] rest := by
  obtain ⟨before', made, fitting, split, makes⟩ := first
  obtain ⟨before'', made', fitting', split', makes'⟩ := second fitting
  have other : Place.Makes ⟨before', sign, middle⟩ (.binary sign.text sign.line left right) :=
    Place.makes_of_other ⟨rfl, kind, rfl⟩ (by simp [kind])
      (Token.not_isKeyword_of_kind (by simp [kind]) _)
  rw [carriers_cons (Token.isCarrier_of_sign kind text), split'] at split
  simp only [Node.readingOrderOfAll, List.append_nil] at makes makes'
  refine ⟨before'', made ++ ⟨before', sign, middle⟩ :: made', fitting', by simp [split], ?_⟩
  rw [Node.readingOrderOfAll, Node.readingOrderOfAll, List.append_nil, Node.readingOrder_binary]
  exact List.rel_append makes (.cons other makes')

end Marks

end SnippetCheck

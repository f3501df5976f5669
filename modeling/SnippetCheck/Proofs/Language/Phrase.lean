import SnippetCheck.Token.Basic
import SnippetCheck.Tree.Basic

namespace SnippetCheck.Grammar

/-- The two levels of operators that associate to the left. -/
inductive Level
  | sum
  | product

def Level.signs : Level → List String
  | sum => ["+", "-"]
  | product => ["*", "/", "%"]

def comparisonSigns : List String :=
  ["==", "!=", "<", ">", "<=", ">="]

/-- What stands in parentheses with commas between. -/
inductive Item
  | parameter
  | argument

/-- The two ways in which a body ends. Only the first body of a conditional ends at `else`. -/
inductive Ending
  | atElse
  | atDef

def Ending.stops : Ending → Token → Bool
  | atElse => fun token => token.isKeyword "else" || token.isKeyword "def"
  | atDef => (·.isKeyword "def")

/-- The syntactic classes. `more` is what may follow the first item of a list. -/
inductive Phrase
  | statement
  | body (ending : Ending)
  | expression
  | chain (level : Level)
  | factor
  | parameter
  | list (item : Item)
  | more (item : Item)

/-- What stands between the operators of a level. -/
def Level.operand : Level → Phrase
  | sum => .chain .product
  | product => .factor

def Item.phrase : Item → Phrase
  | parameter => .parameter
  | argument => .expression

/-- The phrases that cannot be empty and hand over one tree. -/
def Phrase.isProper : Phrase → Bool
  | statement => true
  | expression => true
  | chain _ => true
  | factor => true
  | _ => false

theorem Level.operand_isProper (level : Level) : level.operand.isProper = true := by
  cases level <;> rfl

/-- The grammar. `Derives phrase tokens trees rest` says that the tokens before `rest` form the
phrase and that `trees` are what it hands to the node above it: one tree, save for lists and
bodies. The tokens of `rest` matter in four places only: a name is not followed by an opening
parenthesis, a conditional without `else` not by one, a bare `return` by nothing but a keyword,
and a body goes on until a token that ends it. -/
inductive Derives : Phrase → List Token → List Node → List Token → Prop
  | number {token rest} : token.kind = .number →
      Derives .factor (token :: rest) [.leaf .number token.text token.line] rest
  | string {token rest} : token.kind = .string →
      Derives .factor (token :: rest) [.leaf .string token.text token.line] rest
  | name {token rest} : token.kind = .identifier → rest.head?.any (·.isSymbol "(") = false →
      Derives .factor (token :: rest) [.leaf .identifier token.text token.line] rest
  | call {callee opening inner arguments closing rest} :
      callee.kind = .identifier ∨ callee.isKeyword "print" → opening.isSymbol "(" →
      Derives (.list .argument) inner arguments (closing :: rest) → closing.isSymbol ")" →
      Derives .factor (callee :: opening :: inner)
        [.mk .functionCall callee.text callee.line arguments] rest
  | parenthesized {opening inner node closing rest} : opening.isSymbol "(" →
      Derives .expression inner [node] (closing :: rest) → closing.isSymbol ")" →
      Derives .factor (opening :: inner) [node] rest
  | operand {level tokens node rest} : Derives level.operand tokens [node] rest →
      Derives (.chain level) tokens [node] rest
  | operation {level tokens left sign middle right rest} :
      Derives (.chain level) tokens [left] (sign :: middle) →
      sign.kind = .operator → sign.text ∈ level.signs →
      Derives level.operand middle [right] rest →
      Derives (.chain level) tokens [.binary sign.text sign.line left right] rest
  | arithmetic {tokens node rest} : Derives (.chain .sum) tokens [node] rest →
      Derives .expression tokens [node] rest
  | comparison {tokens left sign middle right rest} :
      Derives (.chain .sum) tokens [left] (sign :: middle) →
      sign.kind = .operator → sign.text ∈ comparisonSigns →
      Derives (.chain .sum) middle [right] rest →
      Derives .expression tokens [.binary sign.text sign.line left right] rest
  | parameter {name rest} : name.kind = .identifier →
      Derives .parameter (name :: rest) [.leaf .parameter name.text name.line] rest
  | noItems {item tokens} : Derives (.list item) tokens [] tokens
  | items {item tokens first middle others rest} : Derives item.phrase tokens [first] middle →
      Derives (.more item) middle others rest → Derives (.list item) tokens (first :: others) rest
  | noMore {item tokens} : Derives (.more item) tokens [] tokens
  | more {item comma tokens next middle others rest} : comma.isSymbol "," →
      Derives item.phrase tokens [next] middle → Derives (.more item) middle others rest →
      Derives (.more item) (comma :: tokens) (next :: others) rest
  | definition {keyword name opening signature parameters closing colon start body rest} :
      keyword.isKeyword "def" → name.kind = .identifier → opening.isSymbol "(" →
      Derives (.list .parameter) signature parameters (closing :: colon :: start) →
      closing.isSymbol ")" → colon.isSymbol ":" → Derives (.body .atDef) start body rest →
      Derives .statement (keyword :: name :: opening :: signature)
        [.mk .functionDef name.text name.line (parameters ++ body)] rest
  | conditional {keyword tokens condition colon start body rest} : keyword.isKeyword "if" →
      Derives .expression tokens [condition] (colon :: start) → colon.isSymbol ":" →
      Derives (.body .atElse) start body rest → rest.head?.any (·.isKeyword "else") = false →
      Derives .statement (keyword :: tokens)
        [.mk .ifStatement "" keyword.line (condition :: body)] rest
  | alternative {keyword tokens condition colon start body other colon' start' body' rest} :
      keyword.isKeyword "if" → Derives .expression tokens [condition] (colon :: start) →
      colon.isSymbol ":" → Derives (.body .atElse) start body (other :: colon' :: start') →
      other.isKeyword "else" → colon'.isSymbol ":" → Derives (.body .atDef) start' body' rest →
      Derives .statement (keyword :: tokens)
        [.mk .ifStatement "" keyword.line (condition :: (body ++ body'))] rest
  | bareReturn {keyword rest} : keyword.isKeyword "return" →
      rest.head?.any (·.kind != .keyword) = false →
      Derives .statement (keyword :: rest) [.leaf .returnStatement "" keyword.line] rest
  | returnValue {keyword tokens value rest} : keyword.isKeyword "return" →
      tokens.head?.any (·.kind != .keyword) = true → Derives .expression tokens [value] rest →
      Derives .statement (keyword :: tokens) [.mk .returnStatement "" keyword.line [value]] rest
  | assignment {name sign tokens value rest} : name.kind = .identifier → sign.isOperator "=" →
      Derives .expression tokens [value] rest →
      Derives .statement (name :: sign :: tokens) [.mk .assignment name.text name.line [value]] rest
  | expression {tokens node rest} : Derives .expression tokens [node] rest →
      Derives .statement tokens [node] rest
  | bodyEnd {ending tokens} : tokens.head?.all ending.stops = true →
      Derives (.body ending) tokens [] tokens
  | bodyStatement {ending tokens first middle others rest} : tokens.head?.any ending.stops = false →
      Derives .statement tokens [first] middle → Derives (.body ending) middle others rest →
      Derives (.body ending) tokens (first :: others) rest

/-- A program is one statement or more, up to the last token. -/
inductive Program : List Token → List Node → Prop
  | last {tokens node} : Derives .statement tokens [node] [] → Program tokens [node]
  | next {tokens node rest others} : Derives .statement tokens [node] rest →
      Program rest others → Program tokens (node :: others)

end SnippetCheck.Grammar

namespace SnippetCheck

/-- The classes of lexemes, in the order in which reports list them. -/
inductive TokenKind
  | keyword
  | identifier
  | number
  | string
  | operator
  | symbol
  | comment
  | newline
  | error
  deriving DecidableEq

namespace TokenKind

/-- Every kind once, in report order. -/
def all : List TokenKind :=
  [keyword, identifier, number, string, operator, symbol, comment, newline, error]

/-- The name a kind has in reports. -/
def name : TokenKind → String
  | keyword => "KEYWORD"
  | identifier => "IDENTIFIER"
  | number => "NUMBER"
  | string => "STRING"
  | operator => "OPERATOR"
  | symbol => "SYMBOL"
  | comment => "COMMENT"
  | newline => "NEWLINE"
  | error => "ERROR"

theorem mem_all (kind : TokenKind) : kind ∈ all := by
  cases kind <;> decide

end TokenKind

/-- A classified lexeme. The text of a string literal is what stands between its quotes;
every other token carries its lexeme. Line and column are those of the first character,
counted from 1 and kept in 32 bits. -/
structure Token where
  kind : TokenKind
  text : String
  line : UInt32
  column : UInt32
  deriving DecidableEq

namespace Token

def is (token : Token) (kind : TokenKind) (text : String) : Bool :=
  token.kind == kind && token.text == text

def isKeyword (token : Token) (word : String) : Bool :=
  token.is .keyword word

def isSymbol (token : Token) (mark : String) : Bool :=
  token.is .symbol mark

def isOperator (token : Token) (sign : String) : Bool :=
  token.is .operator sign

/-- Newlines and comments carry no grammar. -/
def isTrivia (token : Token) : Bool :=
  token.kind == .newline || token.kind == .comment

def isSignificant (token : Token) : Bool :=
  !token.isTrivia

theorem is_iff {token : Token} {kind : TokenKind} {text : String} :
    token.is kind text = true ↔ token.kind = kind ∧ token.text = text := by
  simp [is]

section Classes

variable {token : Token}

theorem kind_of_isKeyword {word : String} (isWord : token.isKeyword word = true) :
    token.kind = .keyword :=
  (is_iff.mp isWord).1

theorem kind_of_isSymbol {mark : String} (isMark : token.isSymbol mark = true) :
    token.kind = .symbol :=
  (is_iff.mp isMark).1

theorem kind_of_isOperator {sign : String} (isSign : token.isOperator sign = true) :
    token.kind = .operator :=
  (is_iff.mp isSign).1

theorem not_isKeyword_of_kind (other : token.kind ≠ .keyword) (word : String) :
    token.isKeyword word = false := by
  simp [isKeyword, is, other]

theorem not_isKeyword_of_isSymbol {mark : String} (isMark : token.isSymbol mark = true)
    (word : String) : token.isKeyword word = false :=
  not_isKeyword_of_kind (by simp [kind_of_isSymbol isMark]) word

theorem not_isKeyword_of_ne {word other : String} (isWord : token.isKeyword word = true)
    (different : word ≠ other) : token.isKeyword other = false := by
  obtain ⟨-, text⟩ := is_iff.mp isWord
  simp [isKeyword, is, text, different]

end Classes

end Token

/-- The tokens that the grammar reads. -/
def significantTokens (tokens : List Token) : List Token :=
  tokens.filter Token.isSignificant

theorem significantTokens_append (a b : List Token) :
    significantTokens (a ++ b) = significantTokens a ++ significantTokens b :=
  List.filter_append a b

/-- Words that are never names. `print` is among them although it can be called. -/
def reservedWords : List String :=
  ["def", "if", "else", "elif", "return", "for", "while", "in", "pass", "break",
   "continue", "class", "try", "except", "finally", "with",
   "and", "or", "not", "True", "False", "None",
   "import", "from", "as",
   "print"]

def isReserved (word : String) : Bool :=
  reservedWords.contains word

/-- Names that need no definition. -/
def builtinNames : List String :=
  ["print", "len", "str", "int", "float"]

def isBuiltin (name : String) : Bool :=
  builtinNames.contains name

end SnippetCheck

import SnippetCheck.Token.Basic
import SnippetCheck.Unicode.Classes

namespace SnippetCheck

/-- White space between lexemes. The line feed is a lexeme of its own. -/
def isBlank (c : Char) : Bool :=
  c != '\n' && Unicode.isWhiteSpace c

def isWordStart (c : Char) : Bool :=
  Unicode.isAlphabetic c || c == '_'

def isWordPart (c : Char) : Bool :=
  Unicode.isAlphabetic c || Unicode.isNumeric c || c == '_'

def isPunctuation (c : Char) : Bool :=
  ['(', ')', '[', ']', '\x7b', '\x7d', ':', ';', ',', '.'].contains c

/-- A lexeme at the head of a text: its kind, the text its token carries, and the characters
it takes. The last two differ only for a string literal, whose quotes are not carried. -/
structure Lexeme where
  kind : TokenKind
  text : List Char
  spelling : List Char

namespace Lexeme

def plain (kind : TokenKind) (spelling : List Char) : Lexeme :=
  ⟨kind, spelling, spelling⟩

/-- The longest run of characters with a property, and what follows. -/
def run (p : Char → Bool) (cs : List Char) : List Char × List Char :=
  (cs.takeWhile p, cs.dropWhile p)

/-- The character `c` if the text begins with it, and what follows. -/
def accept (c : Char) : List Char → List Char × List Char
  | [] => ([], [])
  | d :: rest => if d = c then ([d], rest) else ([], d :: rest)

/-- Digits with at most one point anywhere among or after them. -/
def number (cs : List Char) : List Char × List Char :=
  let whole := run Char.isDigit cs
  match whole.2 with
  | '.' :: rest =>
    let fraction := run Char.isDigit rest
    (whole.1 ++ '.' :: fraction.1, fraction.2)
  | _ => whole

/-- What stands before the first quote that no backslash shields, and what follows from that
quote on. A backslash shields the one character after it. -/
def untilQuote (quote : Char) : List Char → List Char × List Char
  | [] => ([], [])
  | c :: cs =>
    if c = quote then ([], c :: cs)
    else if c = '\\' then
      match cs with
      | [] => ([c], [])
      | shielded :: cs =>
        let after := untilQuote quote cs
        (c :: shielded :: after.1, after.2)
    else
      let after := untilQuote quote cs
      (c :: after.1, after.2)

/-- A string literal after its opening quote. Without a closing quote it takes the whole text. -/
def literal (quote : Char) (cs : List Char) : Lexeme × List Char :=
  let content := untilQuote quote cs
  let closing := accept quote content.2
  (⟨.string, content.1, quote :: (content.1 ++ closing.1)⟩, closing.2)

/-- The rest of an operator that begins with `c`, as long as the text allows, or nothing if no
operator begins so. -/
def operatorTail (c : Char) (cs : List Char) : Option (List Char × List Char) :=
  let equals := accept '=' cs
  let double := accept c cs
  if ['+', '-', '%', '='].contains c then
    some equals
  else if ['*', '/'].contains c then
    let equals := accept '=' double.2
    some (double.1 ++ equals.1, equals.2)
  else if ['<', '>'].contains c then
    some (if equals.1.isEmpty then double else equals)
  else if c = '!' then
    if equals.1.isEmpty then none else some equals
  else if ['&', '|', '^', '~'].contains c then
    some ([], cs)
  else
    none

/-- The lexeme that begins with the character `c`, and the text after it. Every character
begins one: what nothing else claims is an error of one character. -/
def read (c : Char) (cs : List Char) : Lexeme × List Char :=
  if c = '\n' then
    (plain .newline [c], cs)
  else if c = '#' then
    let body := run (· != '\n') cs
    (plain .comment (c :: body.1), body.2)
  else if isWordStart c then
    let tail := run isWordPart cs
    let word := c :: tail.1
    (plain (if isReserved (String.ofList word) then .keyword else .identifier) word, tail.2)
  else if c.isDigit then
    let digits := number (c :: cs)
    (plain .number digits.1, digits.2)
  else if c = '"' ∨ c = '\'' then
    literal c cs
  else if isPunctuation c then
    (plain .symbol [c], cs)
  else
    match operatorTail c cs with
    | some tail => (plain .operator (c :: tail.1), tail.2)
    | none => (plain .error [c], cs)

theorem run_append (p : Char → Bool) (cs : List Char) : (run p cs).1 ++ (run p cs).2 = cs :=
  List.takeWhile_append_dropWhile

theorem accept_append (c : Char) (cs : List Char) : (accept c cs).1 ++ (accept c cs).2 = cs := by
  cases cs with
  | nil => rfl
  | cons d rest => by_cases same : d = c <;> simp [accept, same]

theorem number_append (cs : List Char) : (number cs).1 ++ (number cs).2 = cs := by
  have outer := run_append Char.isDigit cs
  simp only [number]
  split
  · next rest point =>
    have inner := run_append Char.isDigit rest
    simpa [point, inner] using outer
  · exact outer

theorem untilQuote_append (quote : Char) (cs : List Char) :
    (untilQuote quote cs).1 ++ (untilQuote quote cs).2 = cs := by
  fun_induction untilQuote quote cs <;> simp_all +zetaDelta

theorem operatorTail_append {c : Char} {cs : List Char} {tail : List Char × List Char}
    (found : operatorTail c cs = some tail) : tail.1 ++ tail.2 = cs := by
  have equals := accept_append '=' cs
  have double := accept_append c cs
  have both := accept_append '=' (accept c cs).2
  unfold operatorTail at found
  grind

/-- A lexeme and the text after it make up the text that was read. -/
theorem read_append (c : Char) (cs : List Char) :
    (read c cs).1.spelling ++ (read c cs).2 = c :: cs := by
  unfold read
  split
  · rfl
  split
  · simp [plain, run_append]
  split
  · simp [plain, run_append]
  split
  · simp [plain, number_append]
  split
  · have content := untilQuote_append c cs
    have closing := accept_append c (untilQuote c cs).2
    simp only [literal, List.cons_append, List.append_assoc, closing, content]
  split
  · rfl
  split
  · next found => simpa [plain] using operatorTail_append found
  · rfl

/-- A lexeme begins with the character that it was read at. -/
theorem read_head (c : Char) (cs : List Char) : (read c cs).1.spelling.head? = some c := by
  unfold read
  split
  · rfl
  split
  · rfl
  split
  · rfl
  split
  · next digit =>
    simp only [plain, number, run, List.takeWhile_cons, digit, if_true]
    split <;> rfl
  split
  · rfl
  split
  · rfl
  split <;> rfl

/-- Reading a lexeme takes at least its first character. -/
theorem read_rest_length (c : Char) (cs : List Char) : (read c cs).2.length ≤ cs.length := by
  have whole := congrArg List.length (read_append c cs)
  have head := read_head c cs
  cases spelling : (read c cs).1.spelling with
  | nil => simp [spelling] at head
  | cons d tail =>
    simp only [spelling, List.length_append, List.length_cons] at whole
    omega

end Lexeme
end SnippetCheck

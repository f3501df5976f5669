import SnippetCheck.Token.Lexeme

namespace SnippetCheck

/-- A place in a text, as line and column counted from 1. -/
structure Position where
  line : Nat
  column : Nat
  deriving DecidableEq

namespace Position

def start : Position :=
  ⟨1, 1⟩

/-- The place after one more character. -/
def next (position : Position) (c : Char) : Position :=
  if c = '\n' then ⟨position.line + 1, 1⟩ else ⟨position.line, position.column + 1⟩

/-- The place after a run of characters. -/
def after (position : Position) (cs : List Char) : Position :=
  cs.foldl next position

theorem after_append (position : Position) (a b : List Char) :
    position.after (a ++ b) = (position.after a).after b :=
  List.foldl_append

end Position

/-- How far a text has been cut into tokens: the characters left, and the place of the first
of them. -/
structure Cursor where
  rest : List Char
  position : Position

namespace Cursor

def ofSource (source : String) : Cursor :=
  ⟨source.toList, .start⟩

def skipBlank (cursor : Cursor) : Cursor :=
  ⟨cursor.rest.dropWhile isBlank, cursor.position.after (cursor.rest.takeWhile isBlank)⟩

/-- The next token and the cursor behind it. There is none only if nothing but blanks is
left. -/
def next? (cursor : Cursor) : Option (Token × Cursor) :=
  let here := cursor.skipBlank
  match here.rest with
  | [] => none
  | c :: cs =>
    let lexeme := Lexeme.read c cs
    some
      ({ kind := lexeme.1.kind
         text := String.ofList lexeme.1.text
         line := here.position.line.toUInt32
         column := here.position.column.toUInt32 },
       ⟨lexeme.2, here.position.after lexeme.1.spelling⟩)

theorem next?_rest_length {cursor after : Cursor} {token : Token}
    (found : cursor.next? = some (token, after)) : after.rest.length < cursor.rest.length := by
  have shorter := (List.dropWhile_sublist (l := cursor.rest) isBlank).length_le
  simp only [next?, skipBlank] at found
  split at found
  · simp at found
  · next c cs here =>
    simp only [Option.some.injEq, Prod.mk.injEq] at found
    have bound := Lexeme.read_rest_length c cs
    simp only [here, List.length_cons] at shorter
    rw [← found.2]
    exact Nat.lt_of_lt_of_le (Nat.lt_succ_of_le bound) shorter

/-- Every token from the cursor on. -/
def tokens (cursor : Cursor) : List Token :=
  match _found : cursor.next? with
  | none => []
  | some (token, after) => token :: after.tokens
termination_by cursor.rest.length
decreasing_by exact next?_rest_length _found

/-- Up to `count` tokens from the cursor on, and the cursor behind them. -/
def take (cursor : Cursor) : Nat → List Token × Cursor
  | 0 => ([], cursor)
  | count + 1 =>
    match cursor.next? with
    | none => ([], cursor)
    | some (token, after) =>
      let more := after.take count
      (token :: more.1, more.2)

end Cursor

/-- The tokens of a source text. -/
def tokenize (source : String) : List Token :=
  (Cursor.ofSource source).tokens

end SnippetCheck

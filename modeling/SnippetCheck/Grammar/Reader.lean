import SnippetCheck.Diagnostic
import SnippetCheck.Token.Basic

namespace SnippetCheck.Grammar

/-- What reading a construct at the head of a token list comes to. A failed reading has no
result, but it too has a place where it stopped and faults to show for it. The tokens left are
always an end of the list, so nothing is read twice or put back. -/
structure Outcome (α : Type) (tokens : List Token) where
  result : Option α
  rest : List Token
  faults : List Diagnostic
  suffix : rest <:+ tokens

/-- A rule of the grammar, as a function on the tokens that are left. -/
def Reader (α : Type) : Type :=
  (tokens : List Token) → Outcome α tokens

namespace Reader

instance : Monad Reader where
  pure a := fun tokens => ⟨some a, tokens, [], List.suffix_refl tokens⟩
  bind reader next := fun tokens =>
    let first := reader tokens
    match first.result with
    | none => ⟨none, first.rest, first.faults, first.suffix⟩
    | some a =>
      let second := next a first.rest
      ⟨second.result, second.rest, first.faults ++ second.faults,
        second.suffix.trans first.suffix⟩

/-- Fail here with one fault. -/
def fail {α : Type} (fault : Diagnostic) : Reader α :=
  fun tokens => ⟨none, tokens, [fault], List.suffix_refl tokens⟩

/-- The next token, which stays. -/
def peek : Reader (Option Token) :=
  fun tokens => ⟨some tokens.head?, tokens, [], List.suffix_refl tokens⟩

/-- Whether there is a next token and it satisfies a condition. -/
def next (condition : Token → Bool) : Reader Bool :=
  fun tokens => ⟨some (tokens.head?.any condition), tokens, [], List.suffix_refl tokens⟩

/-- Whether there is a token behind the next one and it satisfies a condition. -/
def second (condition : Token → Bool) : Reader Bool :=
  fun tokens => ⟨some (tokens.tail.head?.any condition), tokens, [], List.suffix_refl tokens⟩

/-- Pass over the next token. -/
def skip : Reader Unit :=
  fun tokens => ⟨some (), tokens.tail, [], List.tail_suffix tokens⟩

/-- Take the next token if it satisfies a condition. -/
def accept (condition : Token → Bool) : Reader (Option Token)
  | [] => ⟨some none, [], [], List.suffix_refl []⟩
  | token :: rest =>
    if condition token then ⟨some (some token), rest, [], List.suffix_cons token rest⟩
    else ⟨some none, token :: rest, [], List.suffix_refl _⟩

/-- Take a token that has to be there. Another one in its place is not taken. -/
def expect (expected : String) (condition : Token → Bool) : Reader Token
  | [] => ⟨none, [], [.expectedAtEnd expected], List.suffix_refl []⟩
  | token :: rest =>
    if condition token then ⟨some token, rest, [], List.suffix_cons token rest⟩
    else ⟨none, token :: rest, [.expectedToken expected token.line token.text],
      List.suffix_refl _⟩

def symbol (mark : String) : Reader Token :=
  expect s!"'{mark}'" (·.isSymbol mark)

def name (what : String) : Reader Token :=
  expect what (·.kind == .identifier)

/-- Go on after a failure, with its faults kept. -/
def attempt {α : Type} (reader : Reader α) : Reader (Option α) :=
  fun tokens =>
    let first := reader tokens
    ⟨some first.result, first.rest, first.faults, first.suffix⟩

/-- One item behind every comma that follows. -/
def behindCommas {α : Type} (item : Reader α) : Reader (List α)
  | [] => ⟨some [], [], [], List.suffix_refl []⟩
  | token :: rest =>
    if token.isSymbol "," then
      let first := item rest
      have suffix := first.suffix.trans (List.suffix_cons token rest)
      match first.result with
      | none => ⟨none, first.rest, first.faults, suffix⟩
      | some a =>
        let others := behindCommas item first.rest
        ⟨others.result.map (a :: ·), others.rest, first.faults ++ others.faults,
          others.suffix.trans suffix⟩
    else ⟨some [], token :: rest, [], List.suffix_refl _⟩
termination_by tokens => tokens.length
decreasing_by exact Nat.lt_succ_of_le first.suffix.length_le

/-- Items with commas between them, up to a closing parenthesis, which stays. There are none if
it comes at once or the tokens end. -/
def commaSeparated {α : Type} (item : Reader α) : Reader (List α) := do
  if ← next (!·.isSymbol ")") then
    let first ← item
    let others ← behindCommas item
    return first :: others
  else
    return []

end Reader
end SnippetCheck.Grammar

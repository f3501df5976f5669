import SnippetCheck.Json.Fault

namespace SnippetCheck.Json

/-- What was read at the head of a text, and the text behind it. -/
structure Taken (α : Type) (text : List Char) where
  value : α
  rest : List Char
  suffix : rest <:+ text

/-- The same, seen from a text of which this one is the end. -/
def Taken.extend {α : Type} {text whole : List Char} (taken : Taken α text)
    (suffix : text <:+ whole) : Taken α whole :=
  ⟨taken.value, taken.rest, taken.suffix.trans suffix⟩

/-- A way to read the head of a text as a value. The text is read from left to right, so the
first fault met is the one that is told. -/
def Reader (α : Type) : Type :=
  (text : List Char) → Except Fault (Taken α text)

namespace Reader

instance : Monad Reader where
  pure a := fun text => .ok ⟨a, text, List.suffix_refl text⟩
  bind reader next := fun text =>
    match reader text with
    | .error fault => .error fault
    | .ok first =>
      match next first.value first.rest with
      | .error fault => .error fault
      | .ok second => .ok ⟨second.value, second.rest, second.suffix.trans first.suffix⟩

def fail {α : Type} (fault : Fault) : Reader α :=
  fun _ => .error fault

/-- The next character, which stays. -/
def peek : Reader (Option Char) :=
  fun text => .ok ⟨text.head?, text, List.suffix_refl text⟩

/-- Pass over the next character. -/
def skip : Reader Unit :=
  fun text => .ok ⟨(), text.tail, List.tail_suffix text⟩

/-- Take the next character. -/
def next : Reader (Option Char) :=
  fun text => .ok ⟨text.head?, text.tail, List.tail_suffix text⟩

/-- The longest run of characters with a property. -/
def takeWhile (p : Char → Bool) : Reader (List Char) :=
  fun text => .ok ⟨text.takeWhile p, text.dropWhile p, List.dropWhile_suffix p⟩

def isBlank (c : Char) : Bool :=
  c == ' ' || c == '\t' || c == '\n' || c == '\r'

/-- The first character that is no blank, and the text behind it. -/
def firstVisible : (text : List Char) → Option (Taken Char text)
  | [] => none
  | c :: rest =>
    if isBlank c then (firstVisible rest).map (·.extend (List.suffix_cons c rest))
    else some ⟨c, rest, List.suffix_cons c rest⟩

theorem firstVisible_rest_length {text : List Char} {first : Taken Char text}
    (found : firstVisible text = some first) : first.rest.length < text.length := by
  induction text with
  | nil => simp [firstVisible] at found
  | cons c rest ih =>
    simp only [firstVisible] at found
    split at found
    · obtain ⟨inner, here, rfl⟩ := Option.map_eq_some_iff.1 found
      exact Nat.lt_succ_of_lt (ih here)
    · obtain rfl := Option.some.inj found
      exact Nat.lt_succ_self _

/-- The next character that is no blank, which stays. -/
def peekVisible : Reader (Option Char) := do
  let _ ← takeWhile isBlank
  peek

/-- The next character that is no blank, where a value has to begin. -/
def peekValue : Reader Char := do
  match ← peekVisible with
  | none => fail .endInValue
  | some c => return c

/-- The letters of `null`, `true` or `false` behind the first. -/
def word : List Char → Reader Unit
  | [] => return ()
  | letter :: rest => do
    match ← next with
    | none => fail .endInValue
    | some c => if c = letter then word rest else fail .expectedWord

def nullWord : Reader Unit := do
  skip
  word ['u', 'l', 'l']

def trueWord : Reader Unit := do
  skip
  word ['r', 'u', 'e']

def falseWord : Reader Unit := do
  skip
  word ['a', 'l', 's', 'e']

/-- The colon behind the name of a member. -/
def colon : Reader Unit := do
  match ← peekVisible with
  | none => fail .endInObject
  | some c => if c = ':' then skip else fail .expectedColon

/-- Nothing but blanks may be left. -/
def finish : Reader Unit := do
  match ← peekVisible with
  | none => return ()
  | some _ => fail .trailingCharacters

/-- Read a whole text as a value. -/
def run {α : Type} (reader : Reader α) (text : String) : Except Fault α :=
  let whole : Reader α := do
    let value ← reader
    finish
    return value
  (whole text.toList).map Taken.value

end Reader
end SnippetCheck.Json

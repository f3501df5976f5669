import SnippetCheck.Json.Reader

namespace SnippetCheck.Json.Reader

/-- The value of a hexadecimal digit of either case. -/
def hexValue (c : Char) : Option Nat :=
  if '0' ≤ c ∧ c ≤ '9' then some (c.toNat - '0'.toNat)
  else if 'a' ≤ c ∧ c ≤ 'f' then some (c.toNat - 'a'.toNat + 10)
  else if 'A' ≤ c ∧ c ≤ 'F' then some (c.toNat - 'A'.toNat + 10)
  else none

/-- Four hexadecimal digits. When fewer than four bytes are left the text has ended, whatever
they are. -/
def hexUnit : Reader Nat := fun text =>
  match text with
  | a :: b :: c :: d :: rest =>
    match hexValue a, hexValue b, hexValue c, hexValue d with
    | some a, some b, some c, some d =>
      .ok ⟨((a * 16 + b) * 16 + c) * 16 + d, rest, ⟨[_, _, _, _], rfl⟩⟩
    | _, _, _, _ => .error .invalidEscape
  | short =>
    .error (if (String.ofList short).utf8ByteSize < 4 then .endInString else .invalidEscape)

/-- The next character of a string that goes on. -/
def nextInString : Reader Char := do
  match ← next with
  | none => fail .endInString
  | some c => return c

/-- The character that stands for a short escape. -/
def shortEscape : Char → Option Char
  | '"' => some '"'
  | '\\' => some '\\'
  | '/' => some '/'
  | 'b' => some '\x08'
  | 'f' => some '\x0c'
  | 'n' => some '\n'
  | 'r' => some '\r'
  | 't' => some '\t'
  | _ => none

def isLeadingSurrogate (unit : Nat) : Bool :=
  0xD800 ≤ unit && unit ≤ 0xDBFF

def isTrailingSurrogate (unit : Nat) : Bool :=
  0xDC00 ≤ unit && unit ≤ 0xDFFF

/-- The character behind `\u`. Beyond the first plane it takes two units, the second with an
escape of its own. -/
def unicodeEscape : Reader Char := do
  let unit ← hexUnit
  if isTrailingSurrogate unit then fail .loneSurrogate
  else if isLeadingSurrogate unit then
    if (← nextInString) ≠ '\\' then fail .unfinishedSurrogate
    else if (← nextInString) ≠ 'u' then fail .unfinishedSurrogate
    else
      let second ← hexUnit
      if isTrailingSurrogate second then
        return Char.ofNat ((unit - 0xD800) * 0x400 + (second - 0xDC00) + 0x10000)
      else fail .loneSurrogate
  else return Char.ofNat unit

/-- The character that an escape stands for, behind its backslash. -/
def escape : Reader Char := do
  let c ← nextInString
  if c = 'u' then unicodeEscape
  else match shortEscape c with
    | some c => return c
    | none => fail .invalidEscape

/-- An escape of which only the form counts. Surrogates need not be paired. -/
def skipEscape : Reader Unit := do
  let c ← nextInString
  if c = 'u' then
    let _ ← hexUnit
    return ()
  else match shortEscape c with
    | some _ => return ()
    | none => fail .invalidEscape

/-- The characters of a string behind its opening quote, with `escaped` reading what follows a
backslash. -/
def stringTail {α : Type} (plain : Char → α) (escaped : Reader α) :
    (text : List Char) → Except Fault (Taken (List α) text)
  | [] => .error .endInString
  | c :: rest =>
    if c = '"' then .ok ⟨[], rest, List.suffix_cons c rest⟩
    else if c = '\\' then
      match escaped rest with
      | .error fault => .error fault
      | .ok first =>
        match stringTail plain escaped first.rest with
        | .error fault => .error fault
        | .ok others =>
          .ok ⟨first.value :: others.value, others.rest,
            (others.suffix.trans first.suffix).trans (List.suffix_cons c rest)⟩
    else if c.toNat < 0x20 then .error .controlCharacter
    else
      match stringTail plain escaped rest with
      | .error fault => .error fault
      | .ok others =>
        .ok ⟨plain c :: others.value, others.rest, others.suffix.trans (List.suffix_cons c rest)⟩
termination_by text => text.length
decreasing_by
  · exact Nat.lt_succ_of_le first.suffix.length_le
  · exact Nat.lt_succ_self _

/-- A string from its opening quote on. -/
def quotedText : Reader String := do
  skip
  return String.ofList (← stringTail id escape)

/-- Pass over a string behind its opening quote. -/
def skipStringTail : Reader Unit := do
  let _ ← stringTail (fun _ => ()) skipEscape
  return ()

end SnippetCheck.Json.Reader

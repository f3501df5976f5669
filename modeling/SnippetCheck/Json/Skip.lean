import SnippetCheck.Json.Text

namespace SnippetCheck.Json

/-- What a value can stand in. -/
inductive Enclosure
  | list
  | object
  deriving DecidableEq

namespace Enclosure

def closing : Enclosure → Char
  | list => ']'
  | object => '\x7d'

def endFault : Enclosure → Fault
  | list => .endInList
  | object => .endInObject

def expectedEnd : Enclosure → Fault
  | list => .expectedItemEnd
  | object => .expectedMemberEnd

end Enclosure

namespace Reader

/-- The exponent of a number of which only the form counts, from its `e` on. -/
def skipExponent : Reader Unit := do
  skip
  let sign ← peek
  if sign = some '+' ∨ sign = some '-' then skip
  let digits ← takeWhile Char.isDigit
  if digits.isEmpty then fail .invalidNumber

def skipFraction : Reader Unit := do
  skip
  let digits ← takeWhile Char.isDigit
  if digits.isEmpty then fail .invalidNumber
  let c ← peek
  if c = some 'e' ∨ c = some 'E' then skipExponent

/-- A number of which only the form counts, behind its first digit. -/
def skipDigits (first : Char) : Reader Unit := do
  let digits ← takeWhile Char.isDigit
  if first = '0' ∧ !digits.isEmpty then fail .invalidNumber
  let c ← peek
  if c = some '.' then skipFraction
  else if c = some 'e' ∨ c = some 'E' then skipExponent

def skipNegative : Reader Unit := do
  match ← next with
  | none => fail .invalidNumber
  | some c => if c.isDigit then skipDigits c else fail .invalidNumber

/-- Pass over a value behind its first character, or only over the bracket it opens with. -/
def skipStart (c : Char) : Reader (Option Enclosure) := do
  if c = '[' then return some .list
  else if c = '\x7b' then return some .object
  else
    if c = 'n' then word ['u', 'l', 'l']
    else if c = 't' then word ['r', 'u', 'e']
    else if c = 'f' then word ['a', 'l', 's', 'e']
    else if c = '-' then skipNegative
    else if c.isDigit then skipDigits c
    else if c = '"' then skipStringTail
    else fail .expectedValue
    return none

/-- The name of a member and its colon. -/
def skipName : Enclosure → Reader Unit
  | .list => return ()
  | .object => do
    match ← peekVisible with
    | none => fail .endInObject
    | some c =>
      if c = '"' then
        skip
        skipStringTail
        colon
      else fail .keyNotString

/-- What comes next while values are passed over: a value, the inside of a bracket just opened,
or what may follow a value. -/
inductive Due
  | value
  | inside (enclosure : Enclosure)
  | behindValue

def Due.rank : Due → Nat
  | .inside _ => 1
  | _ => 0

/-- Pass over values until every open bracket is closed. The brackets are kept in a list, so the
nesting of what is passed over has no limit. -/
def skipOpen (due : Due) (outer : List Enclosure) (text : List Char) :
    Except Fault (Taken Unit text) :=
  match due with
  | .value =>
    match _found : firstVisible text with
    | none => .error .endInValue
    | some first => do
      let start ← skipStart first.value first.rest
      let suffix := start.suffix.trans first.suffix
      match start.value with
      | none => return (← skipOpen .behindValue outer start.rest).extend suffix
      | some enclosure => return (← skipOpen (.inside enclosure) outer start.rest).extend suffix
  | .inside enclosure =>
    match _found : firstVisible text with
    | none => .error enclosure.endFault
    | some first =>
      if first.value = enclosure.closing then do
        return (← skipOpen .behindValue outer first.rest).extend first.suffix
      else do
        let name ← skipName enclosure text
        return (← skipOpen .value (enclosure :: outer) name.rest).extend name.suffix
  | .behindValue =>
    match outer with
    | [] => .ok ⟨(), text, List.suffix_refl text⟩
    | enclosure :: outer =>
      match _found : firstVisible text with
      | none => .error enclosure.endFault
      | some first =>
        if first.value = ',' then do
          let name ← skipName enclosure first.rest
          return (← skipOpen .value (enclosure :: outer) name.rest).extend
            (name.suffix.trans first.suffix)
        else if first.value = enclosure.closing then do
          return (← skipOpen .behindValue outer first.rest).extend first.suffix
        else .error enclosure.expectedEnd
termination_by (text.length, due.rank)
decreasing_by
  · have := start.suffix.length_le
    have := firstVisible_rest_length _found
    exact Prod.Lex.left _ _ (by omega)
  · have := start.suffix.length_le
    have := firstVisible_rest_length _found
    exact Prod.Lex.left _ _ (by omega)
  · exact Prod.Lex.left _ _ (firstVisible_rest_length _found)
  · have := name.suffix.length_le
    rcases Nat.lt_or_eq_of_le this with shorter | same
    · exact Prod.Lex.left _ _ shorter
    · exact same ▸ Prod.Lex.right _ Nat.one_pos
  · have := name.suffix.length_le
    have := firstVisible_rest_length _found
    exact Prod.Lex.left _ _ (by omega)
  · exact Prod.Lex.left _ _ (firstVisible_rest_length _found)

/-- Pass over one value, whatever it is. -/
def skipValue : Reader Unit :=
  skipOpen .value []

end Reader
end SnippetCheck.Json

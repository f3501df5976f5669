import SnippetCheck.Json.Scalar

namespace SnippetCheck.Json.Reader

/-- How many brackets may be open at once while a text is read. -/
def maxLevels : Nat :=
  127

/-- Pass over an opening bracket, if one more may be open. -/
def enter (levels : Nat) : Reader Unit :=
  if levels = 0 then fail .tooDeep else skip

/-- Whether a list just opened has an item. -/
def hasItem : Reader Bool := do
  match ← peekVisible with
  | none => fail .endInList
  | some c => return c != ']'

/-- Whether another item follows, behind its comma. -/
def hasOtherItem : Reader Bool := fun text =>
  match firstVisible text with
  | none => .error .endInList
  | some separator =>
    if separator.value = ']' then .ok ⟨false, text, List.suffix_refl text⟩
    else if separator.value = ',' then
      match firstVisible separator.rest with
      | none => .error .endInValue
      | some item =>
        if item.value = ']' then .error .trailingComma
        else .ok ⟨true, separator.rest, separator.suffix⟩
    else .error .expectedItemEnd

theorem hasOtherItem_rest_length {text : List Char} {other : Taken Bool text}
    (found : hasOtherItem text = .ok other) (follows : other.value = true) :
    other.rest.length < text.length := by
  unfold hasOtherItem at found
  split at found
  · simp at found
  · next separator here =>
    have shorter := firstVisible_rest_length here
    grind

/-- The end of a list of which all wanted items have been read. -/
def closeList : Reader Unit := do
  match ← peekVisible with
  | none => fail .endInList
  | some c =>
    if c = ']' then skip
    else if c = ',' then
      skip
      if (← peekVisible) = some ']' then fail .trailingComma else fail .trailingCharacters
    else fail .trailingCharacters

def otherItems {α : Type} (item : Reader α) (text : List Char) :
    Except Fault (Taken (List α) text) :=
  match _found : hasOtherItem text with
  | .error fault => .error fault
  | .ok other =>
    if _follows : other.value = true then do
      let first ← item other.rest
      let others ← otherItems item first.rest
      return ⟨first.value :: others.value, others.rest,
        (others.suffix.trans first.suffix).trans other.suffix⟩
    else .ok ⟨[], other.rest, other.suffix⟩
termination_by text.length
decreasing_by
  exact Nat.lt_of_le_of_lt first.suffix.length_le (hasOtherItem_rest_length _found _follows)

/-- A list of values of one kind. -/
def list {α : Type} (item : Nat → Reader α) (levels : Nat) : Reader (List α) := do
  let c ← peekValue
  if c = '[' then
    enter levels
    let items ←
      if ← hasItem then do
        let first ← item (levels - 1)
        let others ← otherItems (item (levels - 1))
        pure (first :: others)
      else pure []
    closeList
    return items
  else wrongType "a sequence" c

/-- A list of exactly two values of one kind. -/
def pair {α : Type} (item : Reader α) (levels : Nat) : Reader (α × α) := do
  let expected := "a tuple of size 2"
  let c ← peekValue
  if c = '[' then
    enter levels
    if ← hasItem then
      let first ← item
      if ← hasOtherItem then
        let second ← item
        closeList
        return (first, second)
      else fail (.wrongLength 1 expected)
    else fail (.wrongLength 0 expected)
  else wrongType expected c

/-- Whether an object just opened has a member. -/
def hasMember : Reader Bool := do
  match ← peekVisible with
  | none => fail .endInObject
  | some c =>
    if c = '\x7d' then return false
    else if c = '"' then return true
    else fail .keyNotString

/-- Whether another member follows, behind its comma. -/
def hasOtherMember : Reader Bool := fun text =>
  match firstVisible text with
  | none => .error .endInObject
  | some separator =>
    if separator.value = '\x7d' then .ok ⟨false, text, List.suffix_refl text⟩
    else if separator.value = ',' then
      match firstVisible separator.rest with
      | none => .error .endInValue
      | some name =>
        if name.value = '"' then .ok ⟨true, separator.rest, separator.suffix⟩
        else if name.value = '\x7d' then .error .trailingComma
        else .error .keyNotString
    else .error .expectedMemberEnd

theorem hasOtherMember_rest_length {text : List Char} {other : Taken Bool text}
    (found : hasOtherMember text = .ok other) (follows : other.value = true) :
    other.rest.length < text.length := by
  unfold hasOtherMember at found
  split at found
  · simp at found
  · next separator here =>
    have shorter := firstVisible_rest_length here
    grind

/-- Members until the closing brace, each changing what has been read so far. -/
def otherMembers {σ : Type} (member : σ → Reader σ) (state : σ) (text : List Char) :
    Except Fault (Taken σ text) :=
  match _found : hasOtherMember text with
  | .error fault => .error fault
  | .ok other =>
    if _follows : other.value = true then do
      let first ← member state other.rest
      return (← otherMembers member first.value first.rest).extend
        (first.suffix.trans other.suffix)
    else .ok ⟨state, other.rest, other.suffix⟩
termination_by text.length
decreasing_by
  exact Nat.lt_of_le_of_lt first.suffix.length_le (hasOtherMember_rest_length _found _follows)

/-- The members of an object from its opening brace on, up to the closing one, which stays. -/
def members {σ : Type} (levels : Nat) (member : σ → Reader σ) (start : σ) : Reader σ := do
  enter levels
  if ← hasMember then
    let first ← member start
    otherMembers member first
  else return start

/-- Pass over the closing brace behind the members of an object. -/
def closeObject : Reader Unit := do
  let _ ← peekVisible
  skip

/-- The name of a member, which is known to begin with a quote. -/
def memberName : Reader String := do
  let _ ← peekVisible
  quotedText

/-- One of the named values of an enumeration, from its name in quotes. -/
def variantName {α : Type} (names : List (String × α)) : Reader α := do
  let name ← memberName
  match names.lookup name with
  | some value => return value
  | none => fail (.unknownVariant name (names.map Prod.fst))

/-- One of the named values of an enumeration: its name, or an object whose one member has the
name and `null`. -/
def variant {α : Type} (names : List (String × α)) (levels : Nat) : Reader α := do
  let c ← peekValue
  if c = '"' then variantName names
  else if c = '\x7b' then
    enter levels
    if ← hasMember then
      let value ← variantName names
      colon
      unit
      match ← peekVisible with
      | none => fail .endInObject
      | some c =>
        if c = '\x7d' then
          skip
          return value
        else fail .expectedValue
    else fail .expectedValue
  else fail .expectedValue

end SnippetCheck.Json.Reader

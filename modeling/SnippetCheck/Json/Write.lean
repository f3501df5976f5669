namespace SnippetCheck

/-- What can be written as JSON here: no number is negative or has a fraction. The members of an
object keep their order. -/
inductive Json
  | null
  | bool (value : Bool)
  | number (value : Nat)
  | string (value : String)
  | array (items : List Json)
  | object (members : List (String × Json))

namespace Json

def strings (texts : List String) : Json :=
  array (texts.map string)

/-- One character inside a JSON string. Only the quote, the backslash and the characters below
the space are escaped; those without a short escape are written in four hexadecimal digits. -/
def escapedChar (c : Char) : List Char :=
  if c = '"' then ['\\', '"']
  else if c = '\\' then ['\\', '\\']
  else if c = '\x08' then ['\\', 'b']
  else if c = '\x0c' then ['\\', 'f']
  else if c = '\n' then ['\\', 'n']
  else if c = '\r' then ['\\', 'r']
  else if c = '\t' then ['\\', 't']
  else if c.toNat < 0x20 then
    ['\\', 'u', '0', '0', (c.toNat / 16).digitChar, (c.toNat % 16).digitChar]
  else [c]

def writeString (text : String) : List Char :=
  '"' :: (text.toList.flatMap escapedChar ++ ['"'])

def writeBool : Bool → List Char
  | true => "true".toList
  | false => "false".toList

mutual
/-- The text without any blank. -/
def write : Json → List Char
  | null => "null".toList
  | bool value => writeBool value
  | number value => (toString value).toList
  | string value => writeString value
  | array [] => ['[', ']']
  | array (first :: rest) => '[' :: (write first ++ writeItems rest)
  | object [] => ['\x7b', '\x7d']
  | object ((name, value) :: rest) =>
    '\x7b' :: (writeString name ++ ':' :: (write value ++ writeMembers rest))

/-- The items behind the first, and the closing bracket. -/
def writeItems : List Json → List Char
  | [] => [']']
  | first :: rest => ',' :: (write first ++ writeItems rest)

/-- The members behind the first, and the closing brace. -/
def writeMembers : List (String × Json) → List Char
  | [] => ['\x7d']
  | (name, value) :: rest =>
    ',' :: (writeString name ++ ':' :: (write value ++ writeMembers rest))
end

/-- A line break and the indentation of a nesting level, two spaces each. -/
def newLine (level : Nat) : List Char :=
  '\n' :: List.replicate (2 * level) ' '

mutual
/-- The text with every item and member on a line of its own. Empty ones stay closed. -/
def writeIndented (level : Nat) : Json → List Char
  | null => "null".toList
  | bool value => writeBool value
  | number value => (toString value).toList
  | string value => writeString value
  | array [] => ['[', ']']
  | array (first :: rest) =>
    '[' :: (newLine (level + 1) ++ writeIndented (level + 1) first ++
      writeItemsIndented level rest)
  | object [] => ['\x7b', '\x7d']
  | object ((name, value) :: rest) =>
    '\x7b' :: (newLine (level + 1) ++ writeString name ++ ':' :: ' ' ::
      writeIndented (level + 1) value ++ writeMembersIndented level rest)

def writeItemsIndented (level : Nat) : List Json → List Char
  | [] => newLine level ++ [']']
  | first :: rest =>
    ',' :: (newLine (level + 1) ++ writeIndented (level + 1) first ++
      writeItemsIndented level rest)

def writeMembersIndented (level : Nat) : List (String × Json) → List Char
  | [] => newLine level ++ ['\x7d']
  | (name, value) :: rest =>
    ',' :: (newLine (level + 1) ++ writeString name ++ ':' :: ' ' ::
      writeIndented (level + 1) value ++ writeMembersIndented level rest)
end

def compact (json : Json) : String :=
  String.ofList json.write

def indented (json : Json) : String :=
  String.ofList (json.writeIndented 0)

end Json
end SnippetCheck

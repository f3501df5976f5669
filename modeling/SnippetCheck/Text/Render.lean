import SnippetCheck.Unicode.Visible

namespace SnippetCheck.Text

/-- Where a text stands in a field wider than itself. -/
inductive Alignment
  | left
  | right
  | center
  deriving DecidableEq

/-- A column of fixed layout: text beyond `limit` characters is cut, and what is left is
widened to `width` characters. Characters are code points. -/
structure Field where
  alignment : Alignment := .left
  fill : Char := ' '
  width : Nat := 0
  limit : Option Nat := none

/-- A text longer than the field is kept whole. When the padding of a centred text is odd, the
spare character goes to the right. -/
def Field.pad (field : Field) (text : List Char) : List Char :=
  let missing := field.width - text.length
  let before := match field.alignment with
    | .left => 0
    | .right => missing
    | .center => missing / 2
  List.replicate before field.fill ++ text ++ List.replicate (missing - before) field.fill

def Field.render (field : Field) (text : String) : String :=
  String.ofList (field.pad (match field.limit with
    | none => text.toList
    | some limit => text.toList.take limit))

/-- The digits of `n` in base 16, lower case, without leading zeros. -/
def hexDigits (n : Nat) : List Char :=
  Nat.toDigits 16 n

/-- One character of quoted text. The quote, the backslash and four controls have short
escapes; a character that cannot stand for itself is given by its code point. -/
def quotedChar (c : Char) : List Char :=
  if c = '\x00' then ['\\', '0']
  else if c = '\t' then ['\\', 't']
  else if c = '\r' then ['\\', 'r']
  else if c = '\n' then ['\\', 'n']
  else if c = '"' then ['\\', '"']
  else if c = '\\' then ['\\', '\\']
  else if Unicode.isVisible c then [c]
  else ['\\', 'u', '\x7b'] ++ hexDigits c.toNat ++ ['\x7d']

/-- A text between double quotes in which every character can be seen. -/
def quoted (text : String) : String :=
  String.ofList ('"' :: (text.toList.flatMap quotedChar ++ ['"']))

end SnippetCheck.Text

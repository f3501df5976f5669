import SnippetCheck.Json.Reader

namespace SnippetCheck.Json

/-- A number that was read. Whole numbers are kept whole as far as 64 bits go; what has a point
or an exponent, what is larger, and the negative zero are floating. -/
inductive Numeral
  | whole (value : Int)
  | floating (value : Float)

def Numeral.found : Numeral → Found
  | .whole value => .integer value
  | .floating value => .floating value

namespace Reader

/-- The largest whole number of 64 bits. -/
def maxWhole : Nat :=
  UInt64.size - 1

/-- The largest exponent that is added up digit by digit. -/
def maxExponent : Nat :=
  0x7FFFFFFF

def digitValue (c : Char) : Nat :=
  c.toNat - '0'.toNat

def signed (negative : Bool) (magnitude : Float) : Float :=
  if negative then -magnitude else magnitude

/-- How many times `scaleDown` may be needed: an exponent has 32 bits, and each step takes away
308. -/
def maxScalings : Nat :=
  0x80000000 / 308 + 1

/-- Divide by `10 ^ 308` as long as the exponent is below what one power of ten can express. -/
def scaleDown : Nat → Float → Int → Float
  | 0, value, _ => value
  | steps + 1, value, exponent =>
    if -308 ≤ exponent then value / Float.ofScientific 1 false (-exponent).toNat
    else if value == 0 then value
    else scaleDown steps (value / Float.ofScientific 1 false 308) (exponent + 308)

/-- `significand · 10 ^ exponent` in one rounding for the significand and one for each power of
ten, or nothing if it is too large for a float. -/
def scale (significand : Nat) (exponent : Int) : Option Float :=
  let value := Float.ofNat significand
  if exponent < 0 then some (scaleDown maxScalings value exponent)
  else if exponent ≤ 308 then
    let scaled := value * Float.ofScientific 1 false exponent.toNat
    if scaled.isInf then none else some scaled
  else if value == 0 then some value
  else none

def scaled (negative : Bool) (significand : Nat) (exponent : Int) : Reader Numeral :=
  match scale significand exponent with
  | none => fail .numberOutOfRange
  | some value => return .floating (signed negative value)

/-- Add digits to a number while it fits 64 bits. Returns the number and the digits that no
longer fit. -/
def addDigits (start : Nat) : List Char → Nat × List Char
  | [] => (start, [])
  | c :: rest =>
    let next := start * 10 + digitValue c
    if maxWhole < next then (start, c :: rest) else addDigits next rest

/-- The value of an exponent's digits, or nothing if it has more than 31 bits. -/
def exponentValue (digits : List Char) : Option Nat :=
  digits.foldlM (fun value c =>
    let next := value * 10 + digitValue c
    if maxExponent < next then none else some next) 0

/-- The exponent of a number, from its `e` on. `shift` is what the digits before it add. -/
def exponentPart (negative : Bool) (significand : Nat) (shift : Int) : Reader Numeral := do
  skip
  let sign ← peek
  if sign = some '+' ∨ sign = some '-' then skip
  match ← peek with
  | none => fail .endInValue
  | some c =>
    if !c.isDigit then fail .invalidNumber
    else
      let digits ← takeWhile Char.isDigit
      match exponentValue digits with
      | some value =>
        scaled negative significand (if sign = some '-' then shift - value else shift + value)
      | none =>
        if significand ≠ 0 ∧ sign ≠ some '-' then fail .numberOutOfRange
        else return .floating (signed negative 0)

/-- The end of a number whose digits have been read: an exponent or nothing. -/
def exponentOrEnd (negative : Bool) (significand : Nat) (shift : Int) : Reader Numeral := do
  let c ← peek
  if c = some 'e' ∨ c = some 'E' then exponentPart negative significand shift
  else scaled negative significand shift

/-- The digits behind a point, from the point on. Those that no longer fit are passed over. -/
def fractionPart (negative : Bool) (significand : Nat) (shift : Int) : Reader Numeral := do
  skip
  let digits ← takeWhile Char.isDigit
  let added := addDigits significand digits
  if digits.isEmpty then
    match ← peek with
    | none => fail .endInValue
    | some _ => fail .invalidNumber
  else
    exponentOrEnd negative added.1 (shift - (digits.length - added.2.length : Nat))

/-- What follows the whole digits of a number. `shift` counts the digits that did not fit. -/
def afterDigits (negative : Bool) (significand shift : Nat) : Reader Numeral := do
  let c ← peek
  if c = some '.' then fractionPart negative significand shift
  else if c = some 'e' ∨ c = some 'E' then exponentPart negative significand shift
  else if shift ≠ 0 then scaled negative significand shift
  else if !negative then return .whole significand
  else if significand = 0 ∨ 0x8000000000000000 < significand then
    return .floating (-(Float.ofNat significand))
  else return .whole (-(significand : Int))

/-- A number from its first digit on, behind the sign if there is one. A zero in front stands
alone. -/
def digits (negative : Bool) : Reader Numeral := do
  match ← peek with
  | none => fail .endInValue
  | some c =>
    if !c.isDigit then fail .invalidNumber
    else if c = '0' then
      skip
      match ← peek with
      | some d => if d.isDigit then fail .invalidNumber else afterDigits negative 0 0
      | none => afterDigits negative 0 0
    else
      let digits ← takeWhile Char.isDigit
      let added := addDigits 0 digits
      afterDigits negative added.1 added.2.length

/-- A number, given its first character. -/
def numeral (first : Char) : Reader Numeral := do
  if first = '-' then
    skip
    digits true
  else digits false

end Reader
end SnippetCheck.Json

import SnippetCheck.Json.Numeral
import SnippetCheck.Json.Text

namespace SnippetCheck.Json.Reader

/-- Refuse a value that begins with `c`. It is read far enough to say what it is, and a fault
in it comes first. -/
def wrongType {α : Type} (expected : String) (c : Char) : Reader α := do
  if c = 'n' then
    nullWord
    fail (.wrongType .null expected)
  else if c = 't' then
    trueWord
    fail (.wrongType (.bool true) expected)
  else if c = 'f' then
    falseWord
    fail (.wrongType (.bool false) expected)
  else if c = '-' ∨ c.isDigit then
    let number ← numeral c
    fail (.wrongType number.found expected)
  else if c = '"' then
    let text ← quotedText
    fail (.wrongType (.string text) expected)
  else if c = '[' then fail (.wrongType .sequence expected)
  else if c = '\x7b' then fail (.wrongType .map expected)
  else fail .expectedValue

def bool : Reader Bool := do
  let c ← peekValue
  if c = 't' then
    trueWord
    return true
  else if c = 'f' then
    falseWord
    return false
  else wrongType "a boolean" c

def string : Reader String := do
  let c ← peekValue
  if c = '"' then quotedText else wrongType "a string" c

def unit : Reader Unit := do
  let c ← peekValue
  if c = 'n' then nullWord else wrongType "unit" c

/-- A whole number below a bound. -/
def natural (bound : Nat) (expected : String) : Reader Nat := do
  let c ← peekValue
  if c = '-' ∨ c.isDigit then
    match ← numeral c with
    | .whole value =>
      if 0 ≤ value ∧ value < bound then return value.toNat
      else fail (.wrongInteger value expected)
    | .floating value => fail (.wrongType (.floating value) expected)
  else wrongType expected c

/-- A line or column. -/
def word32 : Reader UInt32 := do
  return (← natural UInt32.size "u32").toUInt32

/-- A count or size. -/
def word64 : Reader UInt64 := do
  return (← natural UInt64.size "usize").toUInt64

/-- A value or `null`. -/
def nullable {α : Type} (reader : Reader α) : Reader (Option α) := do
  if (← peekVisible) = some 'n' then
    nullWord
    return none
  else
    return some (← reader)

end SnippetCheck.Json.Reader

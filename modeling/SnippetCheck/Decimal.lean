namespace SnippetCheck.Decimal

/-- A positive decimal number, as digits times a power of ten. -/
structure Scientific where
  digits : Nat
  exponent : Int
  deriving DecidableEq

/-- The real numbers that round to a binary fraction `significand · 2 ^ exponent` of 53 bits lie
between `low` and `high`, in quarters of its last place. The ends belong to them if the
significand is even. Below a power of two the neighbour is only half as far away. -/
structure Interval where
  low : Nat
  value : Nat
  high : Nat
  closed : Bool
  exponent : Int

def Interval.of (significand : Nat) (exponent : Int) : Interval :=
  { low := if significand = 0x10000000000000 ∧ -1074 < exponent then 4 * significand - 1
      else 4 * significand - 2
    value := 4 * significand
    high := 4 * significand + 2
    closed := significand % 2 = 0
    exponent := exponent - 2 }

/-- The factors that make a multiple of `10 ^ place` and a number of quarters comparable. -/
def Interval.scales (interval : Interval) (place : Int) : Nat × Nat :=
  (Nat.pow 10 place.toNat * Nat.pow 2 (-interval.exponent).toNat,
   Nat.pow 2 interval.exponent.toNat * Nat.pow 10 (-place).toNat)

/-- The multiple of `10 ^ place` next to the value that rounds to it, if there is one. Only the
neighbours below and above come into question; the nearer wins, the one below if they are as
near as each other and even. -/
def Interval.hit (interval : Interval) (place : Int) : Option Scientific :=
  let scales := interval.scales place
  let value := interval.value * scales.2
  let contains (digits : Nat) : Bool :=
    let point := digits * scales.1
    if interval.closed then
      decide (interval.low * scales.2 ≤ point) && decide (point ≤ interval.high * scales.2)
    else decide (interval.low * scales.2 < point) && decide (point < interval.high * scales.2)
  let below := value / scales.1
  let above := below + 1
  let pick (digits : Nat) : Option Scientific := some ⟨digits, place⟩
  if contains below then
    if contains above then
      let toBelow := value - below * scales.1
      let toAbove := above * scales.1 - value
      if toBelow < toAbove ∨ toBelow = toAbove ∧ below % 2 = 0 then pick below else pick above
    else pick below
  else if contains above then pick above
  else none

/-- The decimal places of finite numbers of 64 bits, from the largest down. -/
def places : List Int :=
  (List.range 634).map fun (n : Nat) => 309 - (n : Int)

/-- The fewest digits that read back as the binary fraction. The first place with a hit gives
them, since a coarser grid needs fewer. -/
def shortest (significand : Nat) (exponent : Int) : Scientific :=
  ((places.findSome? (Interval.of significand exponent).hit)).getD ⟨0, 0⟩

/-- How a decimal number is laid out. A number whose first digit stands at a power of ten in the
positional range is written with a point and at least one digit behind it, any other with an
exponent. -/
structure Notation where
  lowestPositional : Int
  highestPositional : Int

/-- Numbers in messages are positional from `0.00001` up to sixteen digits before the point. -/
def messageNotation : Notation :=
  ⟨-5, 15⟩

def digitsOf (n : Nat) : List Char :=
  (toString n).toList

def positional (digits : List Char) (leading : Int) : List Char :=
  if leading < 0 then
    '0' :: '.' :: (List.replicate (-leading - 1).toNat '0' ++ digits)
  else
    let whole := leading.toNat + 1
    if digits.length ≤ whole then
      digits ++ List.replicate (whole - digits.length) '0' ++ ['.', '0']
    else digits.take whole ++ '.' :: digits.drop whole

def withExponent (digits : List Char) (leading : Int) : List Char :=
  let sign := if leading < 0 then '-' else '+'
  let mantissa := match digits with
    | first :: second :: rest => first :: '.' :: second :: rest
    | short => short
  mantissa ++ 'e' :: sign :: digitsOf leading.natAbs

def Scientific.write (form : Notation) (number : Scientific) : List Char :=
  let digits := digitsOf number.digits
  let leading := number.exponent + digits.length - 1
  if form.lowestPositional ≤ leading ∧ leading ≤ form.highestPositional then
    positional digits leading
  else withExponent digits leading

/-- The text of a finite number of 64 bits: a sign, then the fewest digits that read back. Both
zeros have a digit behind the point. -/
def writeFloat (number : Float) : String :=
  let bits := number.toBits.toNat
  let sign := if bits / 0x8000000000000000 = 1 then ['-'] else []
  let field : Nat := bits / 0x10000000000000 % 0x800
  let fraction : Nat := bits % 0x10000000000000
  let text :=
    if field = 0 ∧ fraction = 0 then ['0', '.', '0']
    else if field = 0 then (shortest fraction (-1074)).write messageNotation
    else (shortest (0x10000000000000 + fraction) ((field : Int) - 1075)).write messageNotation
  String.ofList (sign ++ text)

end SnippetCheck.Decimal

import ChannelGateway.Number.Decimal
/-!
# Shortest decimal text of a double

The digits written for a double are the fewest that read back to it, and among those the nearest to
its value.  The search compares candidates on decimal grids of one to seventeen digits, in exact
arithmetic, with the interval of numbers that round to the double.
-/

namespace ChannelGateway.Double

/-- The ends of the interval of numbers that round to `m · 2 ^ e`, and whether they belong to it.
All three numbers are multiples of `2 ^ (e - 2)`. -/
structure RoundingInterval where
  low : Nat
  value : Nat
  high : Nat
  /-- All of the above count units of `num / den`. -/
  num : Nat
  den : Nat
  closed : Bool

/-- The interval below a power of two is half as wide, except at the least exponent. -/
def roundingInterval (d : Double) : RoundingInterval :=
  let narrow := d.significand = Nat.pow 2 52 ∧ -1074 < d.exponent
  let unit := d.exponent - 2
  { low := 4 * d.significand - (if narrow then 1 else 2)
    value := 4 * d.significand
    high := 4 * d.significand + 2
    num := if 0 ≤ unit then Nat.pow 2 unit.toNat else 1
    den := if 0 ≤ unit then 1 else Nat.pow 2 (-unit).toNat
    closed := d.significand % 2 = 0 }

/-- Whether `c · gridNum / gridDen` rounds to the double. -/
def RoundingInterval.contains (i : RoundingInterval) (c gridNum gridDen : Nat) : Bool :=
  let point := c * gridNum * i.den
  let low := i.low * i.num * gridDen
  let high := i.high * i.num * gridDen
  if i.closed then low ≤ point && point ≤ high else low < point && point < high

/-- The least `k` with `num / den < 10 ^ k`, searched upwards from `start`. -/
def decimalOrder (num den : Nat) (start : Int) : Nat → Int
  | 0 => start
  | fuel + 1 =>
    let below :=
      if 0 ≤ start then decide (num < den * Nat.pow 10 start.toNat)
      else decide (num * Nat.pow 10 (-start).toNat < den)
    if below then start else decimalOrder num den (start + 1) fuel

/-- The point of the grid of `digits` digits that is nearest to the value, if one of the value's
two neighbours on that grid reads back. -/
def onGrid? (i : RoundingInterval) (order : Int) (digits : Nat) : Option Decimal :=
  let exponent := order - digits
  let gridNum := if 0 ≤ exponent then Nat.pow 10 exponent.toNat else 1
  let gridDen := if 0 ≤ exponent then 1 else Nat.pow 10 (-exponent).toNat
  let num := i.value * i.num * gridDen
  let den := i.den * gridNum
  let below := num / den
  let above := below + 1
  let low := i.contains below gridNum gridDen
  let high := i.contains above gridNum gridDen
  let nearerBelow := 2 * num < (below + above) * den ∨
    (2 * num = (below + above) * den ∧ below % 2 = 0)
  if low && (!high || nearerBelow) then some ⟨false, below, exponent⟩
  else if high then some ⟨false, above, exponent⟩
  else none

/-- Moves trailing zeros of the coefficient into the exponent. -/
def stripZeros (coefficient : Nat) (exponent : Int) : Nat → Nat × Int
  | 0 => (coefficient, exponent)
  | fuel + 1 =>
    if coefficient ≠ 0 ∧ coefficient % 10 = 0 then stripZeros (coefficient / 10) (exponent + 1) fuel
    else (coefficient, exponent)

/-- The magnitude of a double as the shortest decimal that reads back. -/
def shortest (d : Double) : Decimal :=
  if d.significand = 0 then ⟨d.negative, 0, 0⟩
  else
    let i := d.roundingInterval
    let num := i.value * i.num
    -- One less than the order, or the order: 30103 / 100000 is just above the decimal
    -- logarithm of 2.
    let estimate := (binaryOrder num i.den * 30103) / 100000 - 1
    let order := decimalOrder num i.den estimate 4
    match (List.range 17).findSome? fun n => onGrid? i order (n + 1) with
    | some c =>
      let (coefficient, exponent) := stripZeros c.coefficient c.exponent 17
      ⟨d.negative, coefficient, exponent⟩
    | none => ⟨d.negative, 0, 0⟩

structure Notation where
  /-- Numbers of at least this many digits before the point use an exponent; `none` for never. -/
  largest : Option Int
  /-- Numbers with at least this many zeros after the point use an exponent; `none` for never. -/
  smallest : Option Int
  /-- Whole numbers end in `.0`. -/
  point : Bool

/-- The notation of JSON numbers: positional from `1e-5` up to below `1e16`, with a point. -/
def jsonNotation : Notation := ⟨some 17, some 5, true⟩

/-- Positional notation for every size, without a point on whole numbers. -/
def plainNotation : Notation := ⟨none, none, false⟩

/-- Text of an exponent, with an explicit sign and no padding. -/
def exponentText (e : Int) : List Char :=
  (if e < 0 then ['e', '-'] else ['e', '+']) ++ Nat.toDigits 10 e.natAbs

def layout (style : Notation) (d : Decimal) : List Char :=
  let digits := Nat.toDigits 10 d.coefficient
  let count : Int := digits.length
  let position := count + d.exponent
  let zeros (n : Int) : List Char := List.replicate n.toNat '0'
  let scientific :=
    (style.largest.any fun bound => bound ≤ position) ||
      (style.smallest.any fun bound => position ≤ -bound)
  let body :=
    if d.coefficient = 0 then '0' :: (if style.point then ['.', '0'] else [])
    else if scientific then
      match digits with
      | [digit] => digit :: exponentText (position - 1)
      | digit :: rest => digit :: '.' :: rest ++ exponentText (position - 1)
      | [] => []
    else if 0 ≤ d.exponent then
      digits ++ zeros d.exponent ++ (if style.point then ['.', '0'] else [])
    else if 0 < position then
      digits.take position.toNat ++ '.' :: digits.drop position.toNat
    else '0' :: '.' :: zeros (-position) ++ digits
  if d.negative then '-' :: body else body

def text (d : Double) : String := String.ofList (layout jsonNotation d.shortest)

def plainText (d : Double) : String := String.ofList (layout plainNotation d.shortest)

end ChannelGateway.Double

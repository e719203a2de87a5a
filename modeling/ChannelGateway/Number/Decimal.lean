import ChannelGateway.Number.Double
/-!
# Decimal literals

The decimal spelling of numbers: optional sign, digits with an optional fraction, optional exponent.
A literal denotes an exact rational, and is read into the nearest double.
-/

namespace ChannelGateway

/-- The number `±coefficient · 10 ^ exponent`. -/
structure Decimal where
  negative : Bool
  coefficient : Nat
  exponent : Int
deriving DecidableEq, Repr

namespace Decimal

def digitValue (c : Char) : Nat := c.toNat - '0'.toNat

def ofDigits (digits : List Char) : Nat :=
  digits.foldl (fun n c => 10 * n + digitValue c) 0

def readSign : List Char → Bool × List Char
  | '-' :: rest => (true, rest)
  | '+' :: rest => (false, rest)
  | rest => (false, rest)

/-- Reads `[+-]?[0-9]+`. -/
def readInt? (text : List Char) : Option Int :=
  let (negative, digits) := readSign text
  if digits.isEmpty || !digits.all Char.isDigit then none
  else
    let n : Int := ofDigits digits
    some (if negative then -n else n)

/-- Reads what may follow the digits: nothing, or `e` and a signed integer. -/
def readExponent? : List Char → Option Int
  | [] => some 0
  | c :: rest => if c = 'e' ∨ c = 'E' then readInt? rest else none

/-- Reads a decimal number.  One of the digit groups around the point may be empty, not both. -/
def read? (text : List Char) : Option Decimal :=
  let (negative, unsigned) := readSign text
  let whole := unsigned.takeWhile Char.isDigit
  let rest := unsigned.dropWhile Char.isDigit
  let (fraction, rest) := match rest with
    | '.' :: rest => (rest.takeWhile Char.isDigit, rest.dropWhile Char.isDigit)
    | rest => ([], rest)
  if whole.isEmpty && fraction.isEmpty then none
  else (readExponent? rest).map fun e =>
    ⟨negative, ofDigits (whole ++ fraction), e - fraction.length⟩

def toRat (d : Decimal) : Rat :=
  let magnitude : Rat :=
    if 0 ≤ d.exponent then ((d.coefficient * Nat.pow 10 d.exponent.toNat : Nat) : Rat)
    else mkRat d.coefficient (Nat.pow 10 (-d.exponent).toNat)
  if d.negative then -magnitude else magnitude

def digitCount (n : Nat) : Nat := (Nat.toDigits 10 n).length

/-- The nearest double, or `none` beyond the largest one.  The first two cases only spare the
powers of ten that are too large to matter. -/
def toDouble? (d : Decimal) : Option Double :=
  let order := d.exponent + digitCount d.coefficient
  if d.coefficient = 0 ∨ order < -330 then some (Double.zero d.negative)
  else if 310 < order then none
  else if 0 ≤ d.exponent then
    Double.ofRatio? d.negative (d.coefficient * Nat.pow 10 d.exponent.toNat) 1
  else Double.ofRatio? d.negative d.coefficient (Nat.pow 10 (-d.exponent).toNat)

end Decimal

end ChannelGateway

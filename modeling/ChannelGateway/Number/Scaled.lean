import ChannelGateway.Number.Decimal
/-!
# Reading decimals by scaling

A quick way to read a decimal keeps as many leading digits as fit 64 bits, rounds them to a double,
and scales that double by rounded powers of ten.  It is exact for short literals; beyond 53 bits of
significand or 22 powers of ten it may differ from the nearest double in the last place.
-/

namespace ChannelGateway.Double

def mul? (a b : Double) : Option Double :=
  (ofRat? (a.toRat * b.toRat)).map fun d => { d with negative := a.negative != b.negative }

def div? (a b : Double) : Option Double :=
  (ofRat? (a.toRat / b.toRat)).map fun d => { d with negative := a.negative != b.negative }

/-- The nearest double to `10 ^ n`, for `n ≤ 308`. -/
def powerOfTen (n : Nat) : Double := (ofRatio? false (Nat.pow 10 n) 1).getD (zero false)

/-- Scales by `10 ^ exponent`, dividing by the largest power first while the exponent
is below it. -/
def scale? (d : Double) (exponent : Int) : Nat → Option Double
  | 0 => some (zero d.negative)
  | fuel + 1 =>
    if d.significand = 0 then some d
    else if exponent < -308 then
      (d.div? (powerOfTen 308)).bind fun d => scale? d (exponent + 308) fuel
    else if 308 < exponent then none
    else if 0 ≤ exponent then d.mul? (powerOfTen exponent.toNat)
    else d.div? (powerOfTen (-exponent).toNat)

/-- Takes digits into a significand as long as it fits 64 bits; the rest is handed back. -/
def takeDigits (significand : Nat) : List Char → Nat × List Char
  | [] => (significand, [])
  | c :: rest =>
    let next := 10 * significand + Decimal.digitValue c
    if next < Nat.pow 2 64 then takeDigits next rest else (significand, c :: rest)

def ofScaledDigits? (negative : Bool) (whole fraction : List Char) (exponent : Int) :
    Option Double :=
  let (head, dropped) := takeDigits 0 whole
  let (significand, unused) := takeDigits head fraction
  let exponent := exponent + dropped.length - (fraction.length - unused.length : Nat)
  ((ofRatio? false significand 1).bind fun d => scale? d exponent 4).map fun d =>
    { d with negative := negative }

end ChannelGateway.Double

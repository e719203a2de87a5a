/-!
# Finite binary64 numbers

A finite double is a sign, a significand and a power of two.  The triple is kept in canonical form,
so two doubles are equal exactly when they are the same triple, and every operation below is exact
arithmetic on integers followed by one rounding step.
-/

namespace ChannelGateway

/-- A significand of at most 53 bits whose leading bit is set, unless the exponent is
the least one. -/
def IsCanonicalDouble (significand : Nat) (exponent : Int) : Prop :=
  significand < Nat.pow 2 53 ∧ -1074 ≤ exponent ∧ exponent ≤ 971 ∧
    (Nat.pow 2 52 ≤ significand ∨ exponent = -1074)

instance (m : Nat) (e : Int) : Decidable (IsCanonicalDouble m e) :=
  inferInstanceAs (Decidable (_ ∧ _))

/-- The number `±significand · 2 ^ exponent`; zero keeps its sign. -/
structure Double where
  negative : Bool
  significand : Nat
  exponent : Int
  canonical : IsCanonicalDouble significand exponent
deriving DecidableEq

namespace Double

instance : Inhabited Double := ⟨⟨false, 0, -1074, by decide⟩⟩

def zero (negative : Bool) : Double := ⟨negative, 0, -1074, by decide⟩

def ofParts? (negative : Bool) (significand : Nat) (exponent : Int) : Option Double :=
  if h : IsCanonicalDouble significand exponent then some ⟨negative, significand, exponent, h⟩
  else none

/-- The integer nearest to `num / den`; a tie goes to the even neighbour. -/
def nearestEven (num den : Nat) : Nat :=
  let q := num / den
  let twice := 2 * (num % den)
  if twice < den then q
  else if den < twice then q + 1
  else if q % 2 = 0 then q else q + 1

/-- The exponent `k` with `2 ^ k ≤ num / den < 2 ^ (k + 1)`, for positive arguments. -/
def binaryOrder (num den : Nat) : Int :=
  let estimate : Int := (Nat.log2 num : Int) - Nat.log2 den
  let reached :=
    if 0 ≤ estimate then decide (den * Nat.pow 2 estimate.toNat ≤ num)
    else decide (den ≤ num * Nat.pow 2 (-estimate).toNat)
  if reached then estimate else estimate - 1

/-- The double nearest to `±num / den`, ties to even; `none` when it is beyond the
largest double. -/
def ofRatio? (negative : Bool) (num den : Nat) : Option Double :=
  if num = 0 then some (zero negative)
  else
    let e := max (-1074) (binaryOrder num den - 52)
    let m :=
      if 0 ≤ e then nearestEven num (den * Nat.pow 2 e.toNat)
      else nearestEven (num * Nat.pow 2 (-e).toNat) den
    if m = Nat.pow 2 53 then ofParts? negative (Nat.pow 2 52) (e + 1) else ofParts? negative m e

def ofRat? (q : Rat) : Option Double :=
  ofRatio? (decide (q.num < 0)) q.num.natAbs q.den

def toRat (d : Double) : Rat :=
  let magnitude : Rat :=
    if 0 ≤ d.exponent then ((d.significand * Nat.pow 2 d.exponent.toNat : Nat) : Rat)
    else mkRat d.significand (Nat.pow 2 (-d.exponent).toNat)
  if d.negative then -magnitude else magnitude

def isWhole (d : Double) : Bool := d.toRat.den == 1

end Double

end ChannelGateway

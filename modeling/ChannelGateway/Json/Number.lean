import ChannelGateway.Number.Scaled
import ChannelGateway.Number.Shortest
/-!
# JSON numbers

A JSON number is an integer of up to 64 bits, signed or unsigned, or a double.  Two numbers are
equal as numbers when their exact values agree, whatever their representation.
-/

namespace ChannelGateway

inductive JsonNumber where
  | int (value : Int)
  | double (value : Double)
deriving DecidableEq

namespace JsonNumber

instance : Inhabited JsonNumber := ⟨.int 0⟩

def minInt : Int := -0x8000000000000000

def maxSigned : Int := 0x7FFFFFFFFFFFFFFF

def maxInt : Int := 0xFFFFFFFFFFFFFFFF

def toRat : JsonNumber → Rat
  | int n => n
  | double d => d.toRat

def isWhole : JsonNumber → Bool
  | int _ => true
  | double d => d.isWhole

def toDouble : JsonNumber → Double
  | int n => (Double.ofRat? n).getD (Double.zero false)
  | double d => d

/-- Integers are written in decimal, doubles in their shortest form. -/
def text : JsonNumber → String
  | int n => toString n
  | double d => d.text

/-- Reads the number made of a sign, digits, and optional fraction and exponent.  An integer literal
that fits 64 bits is an integer, `-0` excepted; every other literal is a double, if it does not
overflow. -/
def ofParts? (negative : Bool) (whole : List Char) (fraction : Option (List Char))
    (exponent : Option Int) : Option JsonNumber :=
  let asDouble :=
    (Double.ofScaledDigits? negative whole (fraction.getD []) (exponent.getD 0)).map double
  match fraction, exponent with
  | none, none =>
    let magnitude : Int := Decimal.ofDigits whole
    let n := if negative then -magnitude else magnitude
    if (negative && n == 0) || n < minInt || maxInt < n then asDouble else some (int n)
  | _, _ => asDouble

def read? (text : List Char) : Option JsonNumber :=
  let (negative, unsigned) := match text with
    | '-' :: rest => (true, rest)
    | rest => (false, rest)
  let whole := unsigned.takeWhile Char.isDigit
  let rest := unsigned.dropWhile Char.isDigit
  let wellFormed := match whole with
    | [] => false
    | '0' :: _ :: _ => false
    | _ => true
  if !wellFormed then none
  else
    let (fraction, rest) := match rest with
      | '.' :: rest => (some (rest.takeWhile Char.isDigit), rest.dropWhile Char.isDigit)
      | rest => (none, rest)
    if fraction = some [] then none
    else match rest with
      | [] => ofParts? negative whole fraction none
      | rest => (Decimal.readExponent? rest).bind fun e => ofParts? negative whole fraction (some e)

end JsonNumber

end ChannelGateway

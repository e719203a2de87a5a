/-!
# Base64

Three bytes are written as four characters of an alphabet of 64.  A shorter last group is
filled up with `=`, and the bits that it leaves over are zero, so every sequence of bytes has
one written form.
-/

namespace ChannelGateway.Base64

def digit? (c : Char) : Option Nat :=
  if c.isUpper then some (c.toNat - 'A'.toNat)
  else if c.isLower then some (c.toNat - 'a'.toNat + 26)
  else if c.isDigit then some (c.toNat - '0'.toNat + 52)
  else if c = '+' then some 62
  else if c = '/' then some 63
  else none

/-- The bytes of a number of 24 bits, the first ones of which are taken. -/
def bytesOf (count n : Nat) : List UInt8 :=
  [n / 65536, n / 256 % 256, n % 256].take count |>.map UInt8.ofNat

/-- The number that four characters of the alphabet spell. -/
def group? (a b c d : Char) : Option Nat :=
  match digit? a, digit? b, digit? c, digit? d with
  | some a, some b, some c, some d => some (262144 * a + 4096 * b + 64 * c + d)
  | _, _, _, _ => none

def decode? : List Char → Option (List UInt8)
  | [] => some []
  | [a, b, '=', '='] =>
    ((group? a b 'A' 'A').filter fun n => n % 65536 = 0).map (bytesOf 1)
  | [a, b, c, '='] => ((group? a b c 'A').filter fun n => n % 256 = 0).map (bytesOf 2)
  | a :: b :: c :: d :: rest =>
    (group? a b c d).bind fun n => (decode? rest).map (bytesOf 3 n ++ ·)
  | _ => none

end ChannelGateway.Base64

import ChannelGateway.Text.Hex
import ChannelGateway.Text.Utf8
/-!
# Percent escapes

An escape is `%` and a byte value of two characters: two hexadecimal digits, or a plus sign and one
digit.  Whatever else follows a `%` leaves it as it is.
-/

namespace ChannelGateway.Percent

def byte? (high low : UInt8) : Option UInt8 :=
  let digit? (b : UInt8) := Hex.digit? (Char.ofNat b.toNat)
  match digit? low with
  | none => none
  | some l =>
    if high.toNat = '+'.toNat then some (UInt8.ofNat l)
    else (digit? high).map fun h => UInt8.ofNat (16 * h + l)

/-- Replaces the escapes of a byte sequence by the bytes they stand for, from left to right. -/
def decodeBytes : List UInt8 → List UInt8
  | [] => []
  | b :: rest =>
    if b.toNat = '%'.toNat then
      match rest with
      | high :: low :: rest' =>
        match byte? high low with
        | some value => value :: decodeBytes rest'
        | none => b :: decodeBytes (high :: low :: rest')
      | rest => b :: decodeBytes rest
    else b :: decodeBytes rest
termination_by bytes => bytes.length

/-- Decodes the escapes of a text; bytes that are no UTF-8 become U+FFFD. -/
def decode (text : List Char) : List Char := Utf8.decodeLossy (decodeBytes (Utf8.encode text))

def isUnreserved (b : UInt8) : Bool :=
  let c := Char.ofNat b.toNat
  b < 0x80 && (c.isAlphanum || c = '-' || c = '.' || c = '_' || c = '~')

def escapeByte (b : UInt8) : List Char :=
  let digit (n : Nat) := (Nat.digitChar n).toUpper
  ['%', digit (b.toNat / 16), digit (b.toNat % 16)]

/-- Writes a text with every byte escaped that `keep` does not exempt. -/
def encode (keep : UInt8 → Bool) (text : List Char) : List Char :=
  (Utf8.encode text).flatMap fun b => if keep b then [Char.ofNat b.toNat] else escapeByte b

end ChannelGateway.Percent

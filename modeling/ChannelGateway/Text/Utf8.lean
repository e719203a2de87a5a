/-!
# UTF-8

Bytes are read as a sequence of units.  A unit is a character, or a malformed run: the longest start
of a well-formed sequence that is not continued, or a single byte that starts none.
-/

namespace ChannelGateway.Utf8

def encode (text : List Char) : List UInt8 := text.flatMap String.utf8EncodeChar

def isTail (b : UInt8) : Bool := 0x80 ≤ b && b ≤ 0xBF

/-- Whether `b` may follow the first byte `a` of a sequence of three bytes.  The narrower ranges
leave out overlong forms and surrogates. -/
def isSecondOfThree (a b : UInt8) : Bool :=
  if a = 0xE0 then 0xA0 ≤ b && b ≤ 0xBF
  else if a = 0xED then 0x80 ≤ b && b ≤ 0x9F
  else isTail b

/-- Whether `b` may follow the first byte `a` of a sequence of four bytes.  The narrower ranges
leave out overlong forms and numbers beyond the last character. -/
def isSecondOfFour (a b : UInt8) : Bool :=
  if a = 0xF0 then 0x90 ≤ b && b ≤ 0xBF
  else if a = 0xF4 then 0x80 ≤ b && b ≤ 0x8F
  else isTail b

/-- The character whose number is written in base 64 by these digits, the last one first. -/
def ofTails (digits : List Nat) : Char :=
  Char.ofNat (digits.foldr (fun d n => 64 * n + d) 0)

/-- The units of a byte sequence; `none` stands for a malformed run. -/
def units : List UInt8 → List (Option Char)
  | [] => []
  | a :: rest =>
    let low (b : UInt8) := b.toNat % 64
    if a < 0x80 then some (Char.ofNat a.toNat) :: units rest
    else if 0xC2 ≤ a ∧ a ≤ 0xDF then
      match rest with
      | b :: rest' =>
        if isTail b then some (ofTails [low b, a.toNat % 32]) :: units rest'
        else none :: units (b :: rest')
      | [] => [none]
    else if 0xE0 ≤ a ∧ a ≤ 0xEF then
      match rest with
      | [] => [none]
      | b :: rest' =>
        if isSecondOfThree a b then
          match rest' with
          | [] => [none]
          | c :: rest'' =>
            if isTail c then some (ofTails [low c, low b, a.toNat % 16]) :: units rest''
            else none :: units (c :: rest'')
        else none :: units (b :: rest')
    else if 0xF0 ≤ a ∧ a ≤ 0xF4 then
      match rest with
      | [] => [none]
      | b :: rest' =>
        if isSecondOfFour a b then
          match rest' with
          | [] => [none]
          | c :: rest'' =>
            if isTail c then
              match rest'' with
              | [] => [none]
              | d :: rest''' =>
                if isTail d then some (ofTails [low d, low c, low b, a.toNat % 8]) :: units rest'''
                else none :: units (d :: rest''')
            else none :: units (c :: rest'')
        else none :: units (b :: rest')
    else none :: units rest
termination_by bytes => bytes.length

def decode? (bytes : List UInt8) : Option (List Char) := (units bytes).mapM id

/-- The text of any bytes: every malformed run becomes one U+FFFD. -/
def decodeLossy (bytes : List UInt8) : List Char := (units bytes).map (·.getD '\uFFFD')

/-- The number of bytes of the malformed run at the front; `none` if the bytes end
within a sequence. -/
def runLength? : List UInt8 → Option Nat
  | [] => none
  | a :: rest =>
    let secondFits (b : UInt8) : Bool :=
      if a < 0xE0 then isTail b else if a < 0xF0 then isSecondOfThree a b else isSecondOfFour a b
    if a < 0xC2 || 0xF4 < a then some 1
    else match rest with
      | [] => none
      | b :: rest =>
        if !secondFits b then some 1
        else match rest with
          | [] => none
          | c :: rest => if !isTail c then some 2 else if rest.isEmpty then none else some 3

def faultMessage (bytes : List UInt8) : String :=
  let index := (encode ((units bytes).takeWhile Option.isSome |>.map (·.getD ' '))).length
  match runLength? (bytes.drop index) with
  | some count =>
    "invalid utf-8 sequence of " ++ toString count ++ " bytes from index " ++ toString index
  | none => "incomplete utf-8 byte sequence from index " ++ toString index

end ChannelGateway.Utf8

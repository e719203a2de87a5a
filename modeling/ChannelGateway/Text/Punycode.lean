/-!
# Punycode

Punycode writes text of any script with ASCII letters, digits and hyphens.  The ASCII characters
come first, and a hyphen ends them.  Every other character follows as a number: how far it is from
the one before, over all places of the text and all characters in between.  The numbers are written
with 36 digits, and their lengths adapt to the distances so far.
-/

namespace ChannelGateway.Punycode

def base : Nat := 36

def initialBias : Nat := 72

def firstCode : Nat := 0x80

def digitChar (digit : Nat) : Char :=
  if digit < 26 then Char.ofNat ('a'.toNat + digit) else Char.ofNat ('0'.toNat + (digit - 26))

def digitValue? (c : Char) : Option Nat :=
  if c.isAlpha then some (c.toLower.toNat - 'a'.toNat)
  else if c.isDigit then some (c.toNat - '0'.toNat + 26)
  else none

/-- The least digit that does not end a number at a place; places count in steps of the base. -/
def threshold (place bias : Nat) : Nat := max 1 (min 26 (place - bias))

theorem threshold_pos (place bias : Nat) : 0 < threshold place bias := by
  unfold threshold; omega

/-- The bias for a typical number, given the places that it takes already. -/
def biasOf (number places : Nat) : Nat :=
  if 455 < number then biasOf (number / 35) (places + base)
  else places + base * number / (number + 38)
termination_by number

/-- The bias after a number; `count` characters are written then.  The first number tells little
about the others. -/
def adapt (number count : Nat) (isFirst : Bool) : Nat :=
  let number := if isFirst then number / 700 else number / 2
  biasOf (number + number / count) 0

def digitsOf (bias place number : Nat) : List Char :=
  if number < threshold place bias then [digitChar number]
  else
    let step := base - threshold place bias
    let excess := number - threshold place bias
    digitChar (threshold place bias + excess % step) :: digitsOf bias (place + base) (excess / step)
termination_by number
decreasing_by
  have := threshold_pos place bias
  exact Nat.lt_of_le_of_lt (Nat.div_le_self _ _) (by omega)

structure Progress where
  /-- What is written. -/
  written : List Char
  /-- The number of characters that are written. -/
  count : Nat
  /-- The distance from the last character that is written. -/
  distance : Nat
  bias : Nat
  /-- Whether no number is written yet. -/
  isFirst : Bool
deriving DecidableEq, Repr

namespace Progress

/-- Passes a character of the text while the characters with a code point are written. -/
def pass (code : Nat) (p : Progress) (c : Char) : Progress :=
  if c.toNat < code then { p with distance := p.distance + 1 }
  else if c.toNat = code then
    { written := p.written ++ digitsOf p.bias base p.distance
      count := p.count + 1
      distance := 0
      bias := adapt p.distance (p.count + 1) p.isFirst
      isFirst := false }
  else p

/-- Writes the characters of a text with the next one of its code points, given the first one that
has not been looked for. -/
def writeCode (text : List Char) (state : Progress × Nat) (code : Nat) : Progress × Nat :=
  let (p, next) := state
  let p := { p with distance := p.distance + (code - next) * (p.count + 1) }
  let p := text.foldl (pass code) p
  ({ p with distance := p.distance + 1 }, code + 1)

end Progress

def encode (text : List Char) : List Char :=
  let basic := text.filter (·.toNat < firstCode)
  let codes := ((text.map Char.toNat).filter (firstCode ≤ ·)).mergeSort.eraseDups
  let front := if basic.isEmpty then [] else basic ++ ['-']
  (codes.foldl (Progress.writeCode text) (⟨front, basic.length, 0, initialBias, true⟩,
    firstCode)).1.written

/-- Reads the digits of a number from a place on, and what follows; `weight` is the value of the
place and `number` that of the digits before. -/
def readNumber? (bias place weight number : Nat) : List Char → Option (Nat × List Char)
  | [] => none
  | c :: rest =>
    match digitValue? c with
    | none => none
    | some digit =>
      if digit < threshold place bias then some (number + digit * weight, rest)
      else
        readNumber? bias (place + base) (weight * (base - threshold place bias))
          (number + digit * weight) rest

theorem length_lt_of_readNumber? {bias place weight number result : Nat} {text rest : List Char}
    (h : readNumber? bias place weight number text = some (result, rest)) :
    rest.length < text.length := by
  induction text generalizing place weight number with
  | nil => simp [readNumber?] at h
  | cons c text ih =>
    simp only [readNumber?] at h
    split at h
    · simp at h
    · split at h
      · simp only [Option.some.injEq, Prod.mk.injEq] at h
        simp [h.2]
      · exact Nat.lt_succ_of_lt (ih h)

/-- Reads numbers and puts the characters that they stand for into a text.  `code` is the code
point of the last one, and `place` the place after it. -/
def insertAll? (text : List Char) (code place bias : Nat) (input : List Char) :
    Option (List Char) :=
  if input.isEmpty then some text
  else
    match h : readNumber? bias base 1 0 input with
    | none => none
    | some (number, rest) =>
      let count := text.length + 1
      let code := code + (place + number) / count
      let position := (place + number) % count
      if code.isValidChar then
        insertAll? (text.take position ++ Char.ofNat code :: text.drop position) code (position + 1)
          (adapt number count (place = 0)) rest
      else none
termination_by input.length
decreasing_by exact length_lt_of_readNumber? h

/-- Reads what `encode` writes; `none` if a text was written otherwise. -/
def decode? (text : List Char) : Option (List Char) :=
  let numbers := (text.reverse.takeWhile (· ≠ '-')).reverse
  let basic := text.take (text.length - numbers.length - 1)
  if basic.all (·.toNat < firstCode) then
    insertAll? basic firstCode 0 initialBias (if basic.isEmpty then text else numbers)
  else none

end ChannelGateway.Punycode

import ChannelGateway.Regex.Core
/-!
# The weight of expressions

An expression weighs as many bytes as its automaton takes that reads a text backwards byte by byte.
Expressions over the limit are refused.  A class weighs a state for each byte range that its
sequences of UTF-8 bytes start with, where sequences that start alike share states.
-/

namespace ChannelGateway.Regex

def weightLimit : Nat := 10 * Nat.pow 2 20

def stateWeight : Nat := 32

/-- The greatest code points of each length of UTF-8, without and with the surrogates cut out. -/
def lengthBounds : List Nat := [0x7F, 0x7FF, 0xD7FF, 0xFFFF, CharSet.highest]

def splitByLength (low high : Nat) : List (Nat × Nat) :=
  let parts := lengthBounds.foldl (fun (start, parts) bound =>
    (bound + 1, if max low start ≤ min high bound then (max low start, min high bound) :: parts
      else parts)) (0, ([] : List (Nat × Nat)))
  parts.2.filterMap fun (low, high) =>
    if 0xD800 ≤ low && low ≤ 0xDFFF then (if high ≤ 0xDFFF then none else some (0xE000, high))
    else some (low, high)

/-- Cuts a range so that each part is one sequence of byte ranges: where the last `6 * count` bits
do not run through all their values, the range is cut at the next multiple. -/
def splitBySequence : Nat → Nat → Nat → List (Nat × Nat)
  | 0, low, high => [(low, high)]
  | count + 1, low, high =>
    let unit := Nat.pow 2 (6 * (count + 1))
    if low / unit = high / unit then splitBySequence count low high
    else
      let first := if low % unit = 0 then low else (low / unit + 1) * unit
      let last := if high % unit = unit - 1 then high + 1 else high / unit * unit
      (if low < first then splitBySequence count low (first - 1) else []) ++
        (if first < last then [(first, last - 1)] else []) ++
        (if last ≤ high then splitBySequence count last high else [])

def continuationCount (n : Nat) : Nat :=
  if n ≤ 0x7F then 0 else if n ≤ 0x7FF then 1 else if n ≤ 0xFFFF then 2 else 3

def leadByte (count : Nat) : Nat :=
  match count with
  | 0 => 0
  | 1 => 0xC0
  | 2 => 0xE0
  | _ => 0xF0

def byteRanges (low high : Nat) : List (Nat × Nat) :=
  let count := continuationCount low
  let lead (n : Nat) : Nat := leadByte count + n / Nat.pow 2 (6 * count)
  (lead low, lead high) :: (List.range count).reverse.map fun i =>
    (0x80 + low / Nat.pow 2 (6 * i) % 64, 0x80 + high / Nat.pow 2 (6 * i) % 64)

def sequencesOf (s : CharSet) : List (List (Nat × Nat)) :=
  s.ranges.toList.flatMap fun (low, high) =>
    (splitByLength low high).flatMap fun (low, high) =>
      (splitBySequence (continuationCount low) low high).map fun (low, high) => byteRanges low high

/-- The number of byte ranges that start the same sequences, where each sequence
follows `before`. -/
def stateCount (before : List (Nat × Nat)) : List (List (Nat × Nat)) → Nat
  | [] => 0
  | s :: rest =>
    let shared := ((s.zip before).takeWhile fun (a, b) => a = b).length
    s.length - shared + stateCount s rest

def setWeight (s : CharSet) : Nat :=
  match s.ranges.toList with
  | [] => stateWeight
  | [(low, high)] =>
    if low = high then stateWeight * (continuationCount low + 1)
    else if high ≤ 0x7F then 2 * stateWeight
    else wide
  | ranges =>
    if ranges.all fun (_, high) => high ≤ 0x7F then 2 * stateWeight + 8 * ranges.length else wide
where
  /-- The weight of a set with characters of several lengths. -/
  wide : Nat :=
    let sequences := sequencesOf s
    stateWeight * (stateCount [] sequences + 2) + 4 * sequences.length

namespace Core

def weight : Core → Nat
  | empty | place _ => stateWeight
  | chars s => setWeight s
  | concat first empty => first.weight
  | concat first second => first.weight + second.weight
  | alternative first second => first.weight + second.weight + 2 * stateWeight
  | repetition body least (some most) _ =>
    most * body.weight +
      (if most = least then 0 else (most - least) * (stateWeight + 8) + stateWeight)
  | repetition body least none _ => max 1 least * body.weight + stateWeight + 8
  | group _ body => body.weight

end Core

end ChannelGateway.Regex

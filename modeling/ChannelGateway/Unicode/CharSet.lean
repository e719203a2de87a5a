/-!
# Sets of characters

A set of characters is kept as ranges of code points in increasing order, with a gap between
neighbours.  The tables of the Unicode character database are written as rows of such ranges in
hexadecimal digits, with a blank between two ranges.
-/

namespace ChannelGateway

/-- A set of code points, as ranges in increasing order that neither overlap nor touch. -/
structure CharSet where
  ranges : Array (Nat × Nat)
deriving DecidableEq, Repr, Inhabited

namespace CharSet

def highest : Nat := 0x10FFFF

def empty : CharSet := ⟨#[]⟩

def range (low high : Nat) : CharSet := if low ≤ high then ⟨#[(low, high)]⟩ else empty

def single (c : Char) : CharSet := range c.toNat c.toNat

def all : CharSet := range 0 highest

def joinLast (ranges : Array (Nat × Nat)) (next : Nat × Nat) : Array (Nat × Nat) :=
  match ranges.back? with
  | some last =>
    if next.1 ≤ last.2 + 1 then ranges.pop.push (last.1, max last.2 next.2) else ranges.push next
  | none => ranges.push next

def ofRanges (ranges : List (Nat × Nat)) : CharSet :=
  ⟨(ranges.mergeSort fun a b => a.1 ≤ b.1).foldl joinLast #[]⟩

def union (a b : CharSet) : CharSet :=
  if a.ranges.isEmpty then b
  else if b.ranges.isEmpty then a
  else ofRanges (a.ranges.toList ++ b.ranges.toList)

def unions (sets : List CharSet) : CharSet := ofRanges (sets.flatMap (·.ranges.toList))

def complement (s : CharSet) : CharSet :=
  let (next, gaps) := s.ranges.foldl (fun (next, gaps) (low, high) =>
    (high + 1, if next < low then gaps.push (next, low - 1) else gaps)) (0, #[])
  ⟨if next ≤ highest then gaps.push (next, highest) else gaps⟩

def intersection (a b : CharSet) : CharSet := (union a.complement b.complement).complement

def difference (a b : CharSet) : CharSet := intersection a b.complement

def symmetricDifference (a b : CharSet) : CharSet :=
  difference (union a b) (intersection a b)

/-- How many of the ranges between two places start at or before a code point, if all before `low`
and none from `high` on do. -/
def startedBy (s : CharSet) (n low high : Nat) : Nat :=
  if h : low < high then
    let middle := (low + high) / 2
    if (s.ranges.getD middle (0, 0)).1 ≤ n then s.startedBy n (middle + 1) high
    else s.startedBy n low middle
  else low
termination_by high - low

def holdsCode (s : CharSet) (n : Nat) : Bool :=
  match s.startedBy n 0 s.ranges.size with
  | 0 => false
  | i + 1 => n ≤ (s.ranges.getD i (0, 0)).2

def holds (s : CharSet) (c : Char) : Bool := s.holdsCode c.toNat

def hexValue (c : Char) : Nat :=
  if c.isDigit then c.toNat - '0'.toNat else c.toLower.toNat - 'a'.toNat + 10

/-- A row of a table that is being read: the ranges so far, the start of a range whose end is being
read, and the number so far. -/
structure Row where
  done : Array (Nat × Nat)
  low : Option Nat := none
  number : Nat := 0

namespace Row

def add (row : Row) (c : Char) : Row :=
  if c = ' ' then { done := row.done.push (row.low.getD row.number, row.number) }
  else if c = '-' then { row with low := some row.number, number := 0 }
  else { row with number := 16 * row.number + hexValue c }

end Row

def ofRows (rows : List String) : CharSet :=
  ⟨rows.foldl (fun done row => ((row.foldl Row.add { done }).add ' ').done) #[]⟩

end CharSet

end ChannelGateway

import ChannelGateway.Regex.Program
/-!
# Running programs

A program tries one way and comes back to the ways that it left open.  A search that comes back, or
leaves ways open, more often than its limits allow is given up.
-/

namespace ChannelGateway.Regex

inductive SearchLimit where
  | backtracks
  | openWays
deriving DecidableEq, Repr

namespace SearchLimit

/-- How often a search may come back to a way left open. -/
def maxBacktracks : Nat := 1000000

def maxOpenWays : Nat := 1000000

def message : SearchLimit → String
  | backtracks => "Error executing regex: Max limit for backtracking count exceeded"
  | openWays => "Error executing regex: Max stack size exceeded for backtracking"

end SearchLimit

/-- What a way through a program has come to: the next instruction, the place in the text, the
slots, and how many ways were open where the atomic parts around it began. -/
structure Way where
  instruction : Nat
  place : Nat
  slots : Array (Option Nat)
  atomic : List Nat := []

/-- A run of a program: the way that is followed, the ways left open with their number, the latest
first, and how often the run has come back to one. -/
structure Run where
  way : Way
  waiting : List Way := []
  waitingCount : Nat := 0
  backtracks : Nat := 0

inductive Outcome where
  | on (run : Run)
  | matched
  | failed
  | givenUp (limit : SearchLimit)

namespace Run

def fail (r : Run) : Outcome :=
  match r.waiting with
  | [] => .failed
  | way :: waiting =>
    if SearchLimit.maxBacktracks ≤ r.backtracks then .givenUp .backtracks
    else .on ⟨way, waiting, r.waitingCount - 1, r.backtracks + 1⟩

def go (r : Run) (instruction : Nat) : Run := { r with way := { r.way with instruction } }

def advance (r : Run) : Run := r.go (r.way.instruction + 1)

def moveTo (r : Run) (place : Nat) : Run :=
  { r with way := { r.way with instruction := r.way.instruction + 1, place } }

def set (r : Run) (slot : Nat) (value : Option Nat) : Run :=
  { r with way := { r.way with slots := r.way.slots.setIfInBounds slot value } }

def get (r : Run) (slot : Nat) : Option Nat := r.way.slots.getD slot none

def fork (r : Run) (first second : Nat) : Outcome :=
  if SearchLimit.maxOpenWays ≤ r.waitingCount then .givenUp .openWays
  else
    let second : Way := { r.way with instruction := second }
    .on ({ r with waiting := second :: r.waiting, waitingCount := r.waitingCount + 1 }.go first)

def keep (r : Run) (count : Nat) : Run :=
  { r with
    waiting := r.waiting.drop (r.waitingCount - count)
    waitingCount := min r.waitingCount count }

def forgetTo (instruction : Nat) : List Way → Nat → List Way × Nat
  | [], count => ([], count)
  | way :: waiting, count =>
    if way.instruction = instruction then (waiting, count - 1)
    else forgetTo instruction waiting (count - 1)

def standsAt (text : Array Char) (place : Nat) : List Char → Bool
  | [] => true
  | c :: rest => text[place]? = some c && standsAt text (place + 1) rest

/-- Enters a body again or goes on after it, whichever is preferred, and leaves the
other way open. -/
def enter (r : Run) (greedy : Bool) (next : Nat) : Outcome :=
  let body := r.way.instruction + 1
  if greedy then r.fork body next else r.fork next body

def setGroups (r : Run) (first count : Nat) (found : Array (Option Nat)) : Run :=
  (List.range (2 * count)).foldl (fun r i => r.set (2 * first + i) (found.getD (i + 2) none)) r

/-- Carries out an instruction; `start` is where the search started. -/
def step (text : Array Char) (start : Nat) (i : Instruction) (r : Run) : Outcome :=
  let place := r.way.place
  match i with
  | .accept => .matched
  | .any lineFeeds =>
    match text[place]? with
    | some c => if lineFeeds || c ≠ '\n' then .on (r.moveTo (place + 1)) else r.fail
    | none => r.fail
  | .one set =>
    match text[place]? with
    | some c => if set.holds c then .on (r.moveTo (place + 1)) else r.fail
    | none => r.fail
  | .literal chars =>
    if standsAt text place chars then .on (r.moveTo (place + chars.length)) else r.fail
  | .assertion a => if a.holdsAt text place then .on r.advance else r.fail
  | .split first second => r.fork first second
  | .jump target => .on (r.go target)
  | .save slot => .on (r.set slot (some place)).advance
  | .startCount slot => .on (r.set slot (some 0)).advance
  | .restore slot => .on (r.moveTo ((r.get slot).getD place))
  | .repeatBody least most next count greedy =>
    let rounds := (r.get count).getD 0
    if most = some rounds then .on (r.go next)
    else
      let r := r.set count (some (rounds + 1))
      if least ≤ rounds then r.enter greedy next else .on r.advance
  | .repeatProgress least next count last greedy =>
    let rounds := (r.get count).getD 0
    if 0 < rounds && r.get last = some place then r.fail
    else
      let r := r.set count (some (rounds + 1))
      if least ≤ rounds then (r.set last (some place)).enter greedy next else .on r.advance
  | .goBack count => if count ≤ place then .on (r.moveTo (place - count)) else r.fail
  | .failLook =>
    let (waiting, waitingCount) := forgetTo (r.way.instruction + 1) r.waiting r.waitingCount
    { r with waiting, waitingCount }.fail
  | .backReference group =>
    match r.get (2 * group), r.get (2 * group + 1) with
    | some low, some high =>
      if standsAt text place (text.extract low high).toList then
        .on (r.moveTo (place + (high - low)))
      else r.fail
    | _, _ => r.fail
  | .groupMatched group => if (r.get (2 * group)).isSome then .on r.advance else r.fail
  | .delegate automaton first count =>
    match automaton.matchAt? count text place with
    | some (place, found) => .on ((r.setGroups first count found).moveTo place)
    | none => r.fail
  | .beginAtomic =>
    .on { r with way := { r.way with atomic := r.waitingCount :: r.way.atomic } }.advance
  | .endAtomic =>
    let r := r.keep (r.way.atomic.headD 0)
    .on { r with way := { r.way with atomic := r.way.atomic.drop 1 } }.advance
  | .searchStart => if place ≤ start then .on r.advance else r.fail

end Run

namespace Program

def stepLimit : Nat := Nat.pow 2 62

def run (p : Program) (text : Array Char) : Nat → Run → Except SearchLimit Bool
  | 0, _ => .error .backtracks
  | limit + 1, r =>
    match r.step text 0 (p.code.getD r.way.instruction .accept) with
    | .on r => p.run text limit r
    | .matched => .ok true
    | .failed => .ok false
    | .givenUp limit => .error limit

def finds (p : Program) (text : Array Char) : Except SearchLimit Bool :=
  p.run text stepLimit { way := ⟨0, 0, .replicate p.slots none, []⟩ }

end Program

end ChannelGateway.Regex

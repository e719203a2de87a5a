import ChannelGateway.Regex.Core
/-!
# Automata

A core expression becomes an automaton whose states read a character or lead on without reading.
All ways through it are followed side by side, the preferred ones first, so the work is at most the
length of the text times the number of states.
-/

namespace ChannelGateway.Regex

def isWordAt (c : Option Char) : Bool := c.any Unicode.isWordChar

def Assertion.holds (assertion : Assertion) (before after : Option Char) : Bool :=
  match assertion with
  | textStart => before.isNone
  | textEnd => after.isNone
  | lineStart => before.all (· = '\n')
  | lineEnd => after.all (· = '\n')
  | wordBoundary => isWordAt before != isWordAt after
  | noWordBoundary => isWordAt before == isWordAt after
  | wordStart => !isWordAt before && isWordAt after
  | wordEnd => isWordAt before && !isWordAt after
  | wordStartHalf => !isWordAt before
  | wordEndHalf => !isWordAt after

def Assertion.holdsAt (assertion : Assertion) (text : Array Char) (place : Nat) : Bool :=
  assertion.holds (if place = 0 then none else text[place - 1]?) text[place]?

/-- A state of an automaton, with the states that it leads to. -/
inductive State where
  | accept
  | read (set : CharSet) (next : Nat)
  | place (assertion : Assertion) (next : Nat)
  /-- Two ways to go on, the preferred one first. -/
  | split (first second : Nat)
  /-- Marks the place as an end of a group. -/
  | mark (slot next : Nat)
deriving Inhabited

structure Automaton where
  states : Array State
  start : Nat

namespace Automaton

def accepting : Automaton := ⟨#[.accept], 0⟩

def withStart (states : Array State) (state : State) : Automaton :=
  let start := states.size
  ⟨states.push state, start⟩

def push (a : Automaton) (state : Nat → State) : Automaton := withStart a.states (state a.start)

def branch (greedy : Bool) (body next : Nat) : State :=
  if greedy then .split body next else .split next body

def times (step : Automaton → Automaton) : Nat → Automaton → Automaton
  | 0, a => a
  | count + 1, a => step (times step count a)

def addLoop (greedy : Bool) (body : Automaton → Automaton) (a : Automaton) : Automaton :=
  let loop := a.states.size
  let inner := body ⟨a.states.push (.split a.start a.start), loop⟩
  { inner with states := inner.states.set! loop (branch greedy inner.start a.start) }

/-- Adds the states of an expression in front of the start. -/
def add : Core → Automaton → Automaton
  | .empty, a => a
  | .chars s, a => a.push (.read s)
  | .place assertion, a => a.push (.place assertion)
  | .concat first second, a => add first (add second a)
  | .alternative first second, a =>
    let b := add second a
    let c := add first ⟨b.states, a.start⟩
    withStart c.states (.split c.start b.start)
  | .group index body, a => (add body (a.push (.mark (2 * index + 1)))).push (.mark (2 * index))
  | .repetition body least none greedy, a =>
    let loop := addLoop greedy (add body) a
    if least = 0 then
      if body.isNullable then withStart loop.states (branch greedy loop.start a.start)
      else { loop with start := a.states.size }
    else times (add body) (least - 1) loop
  | .repetition body least (some most) greedy, a =>
    let optional (b : Automaton) : Automaton :=
      let inner := add body b
      withStart inner.states (branch greedy inner.start a.start)
    times (add body) least (times optional (most - least) a)

def ofCore (expression : Core) : Automaton := add expression accepting

/-- A way through an automaton: the state that it has come to and the ends of the groups on it. -/
structure Thread where
  state : Nat
  slots : Array (Option Nat)

/-- The threads at a place: those that can read, in order of preference, and for each state the last
place where it was reached, plus one.  A thread that accepts ends the list. -/
structure Front where
  readers : Array Thread := #[]
  accepted : Option Thread := none
  reached : Array Nat

/-- Follows threads as far as they lead without reading.  Each state is entered once at a place, by
the thread that is preferred; a thread that accepts cuts off the threads after it.  `limit` bounds
the number of steps. -/
def follow (a : Automaton) (text : Array Char) (place : Nat) : Nat → List Thread → Front → Front
  | 0, _, front => front
  | _ + 1, [], front => front
  | limit + 1, thread :: threads, front =>
    if front.reached.getD thread.state 0 = place + 1 then follow a text place limit threads front
    else
      let front := { front with reached := front.reached.setIfInBounds thread.state (place + 1) }
      match a.states.getD thread.state .accept with
      | .accept => { front with accepted := some thread }
      | .read .. =>
        follow a text place limit threads { front with readers := front.readers.push thread }
      | .place assertion next =>
        if assertion.holdsAt text place then
          follow a text place limit ({ thread with state := next } :: threads) front
        else follow a text place limit threads front
      | .split first second =>
        follow a text place limit
          ({ thread with state := first } :: { thread with state := second } :: threads) front
      | .mark slot next =>
        follow a text place limit
          (⟨next, thread.slots.setIfInBounds slot (some place)⟩ :: threads) front

/-- The number of steps that suffice to follow threads at one place: each state leads
to two others. -/
def stepLimit (a : Automaton) (threads : Nat) : Nat := 2 * a.states.size + threads + 1

/-- The threads after a character, in order of preference. -/
def afterChar (a : Automaton) (c : Char) (readers : Array Thread) : List Thread :=
  readers.toList.filterMap fun thread =>
    match a.states.getD thread.state .accept with
    | .read set next => if set.holds c then some { thread with state := next } else none
    | _ => none

def run (a : Automaton) (text : Array Char) :
    Nat → Nat → List Thread → Array Nat → Option (Nat × Array (Option Nat)) →
      Option (Nat × Array (Option Nat))
  | 0, _, _, _, found => found
  | rest + 1, place, threads, reached, found =>
    let front := follow a text place (a.stepLimit threads.length) threads { reached }
    let found := (front.accepted.map fun thread => (place, thread.slots)).or found
    match text[place]? with
    | some c =>
      if front.readers.isEmpty then found
      else run a text rest (place + 1) (a.afterChar c front.readers) front.reached found
    | none => found

def matchAt? (a : Automaton) (groups : Nat) (text : Array Char) (place : Nat) :
    Option (Nat × Array (Option Nat)) :=
  a.run text (text.size + 1 - place) place [⟨a.start, .replicate (2 * groups + 2) none⟩]
    (.replicate a.states.size 0) none

def findsFrom (a : Automaton) (text : Array Char) : Nat → Nat → List Thread → Array Nat → Bool
  | 0, _, _, _ => false
  | rest + 1, place, threads, reached =>
    let threads := threads ++ [⟨a.start, #[]⟩]
    let front := follow a text place (a.stepLimit threads.length) threads { reached }
    front.accepted.isSome ||
      match text[place]? with
      | some c => findsFrom a text rest (place + 1) (a.afterChar c front.readers) front.reached
      | none => false

def finds (a : Automaton) (text : Array Char) : Bool :=
  a.findsFrom text (text.size + 1) 0 [] (.replicate a.states.size 0)

end Automaton

end ChannelGateway.Regex

import ChannelGateway.Regex.Automaton
import ChannelGateway.Regex.Extended
import ChannelGateway.Regex.Plain.Reader
import ChannelGateway.Regex.Weight
/-!
# Programs

A hard expression becomes a program that tries one way after another.  Parts that are plain
are left to automata, at the ends of sequences also where the whole is not, if they always
match as many characters.
-/

namespace ChannelGateway.Regex

inductive Instruction where
  | accept
  /-- Reads any character, or any but a line feed. -/
  | any (lineFeeds : Bool)
  | one (set : CharSet)
  | literal (text : List Char)
  | assertion (assertion : Assertion)
  /-- Goes on at the first place, and at the second if that fails. -/
  | split (first second : Nat)
  | jump (target : Nat)
  /-- Keeps the place in the text in a slot. -/
  | save (slot : Nat)
  /-- Starts a count in a slot. -/
  | startCount (slot : Nat)
  /-- Goes back to a place in the text that a slot holds. -/
  | restore (slot : Nat)
  /-- Enters a body at least `least` and at most `most` times, and goes on at `next`. -/
  | repeatBody (least : Nat) (most : Option Nat) (next count : Nat) (greedy : Bool)
  /-- Enters a body `least` times or more often, while its rounds read something. -/
  | repeatProgress (least : Nat) (next count place : Nat) (greedy : Bool)
  /-- Goes some characters back. -/
  | goBack (count : Nat)
  /-- Fails, together with all ways that were left open since the instruction after it was. -/
  | failLook
  | backReference (group : Nat)
  | groupMatched (group : Nat)
  /-- Matches what an automaton matches, whose groups are the ones from `first` on. -/
  | delegate (automaton : Automaton) (first count : Nat)
  | beginAtomic
  | endAtomic
  | searchStart
deriving Inhabited

structure Program where
  code : Array Instruction
  slots : Nat

def coreOfText? (text : String) : Option Core := do
  let plain ← (Plain.read text.toList).toOption
  let (core, _) ← plain.core? {} 0
  if core.weight ≤ weightLimit then core else none

namespace Program

def push (p : Program) (i : Instruction) : Program := { p with code := p.code.push i }

def next (p : Program) : Nat := p.code.size

def patch (p : Program) (place : Nat) (i : Instruction) : Program :=
  { p with code := p.code.set! place i }

def newSlot (p : Program) : Nat × Program := (p.slots, { p with slots := p.slots + 1 })

def choice (greedy : Bool) (body next : Nat) : Instruction :=
  if greedy then .split body next else .split next body

def addPlain? (items : List Extended) (p : Program) : Option Program :=
  match items, Extended.literalTextOfAll? items with
  | [], _ => some p
  | _, some text => some (p.push (.literal text))
  | _, none => do
    let core ← coreOfText? (String.join (items.map (Extended.plainText 1)))
    match core with
    | .chars set => return p.push (.one set)
    | core =>
      let groups := Extended.groupsOfAll items
      return p.push (.delegate (.ofCore core) (groups.headD 0) groups.length)

/-- The numbers of items at the front and at the end of a sequence that are left to automata:
at the front those that always match as many characters, and at the end those too if the
whole is `hard`. -/
def plainEnds (referenced : List Nat) (hard : Bool) (items : List Extended) : Nat × Nat :=
  let isFixed (e : Extended) : Bool := e.size.isConstant && !e.isHard referenced
  let front := (items.takeWhile isFixed).length
  let later := (items.drop front).reverse
  (front, (later.takeWhile fun e =>
    if hard then isFixed e else !e.isHard referenced).length)

/-- Adds a look-around whose body has been given: a positive one keeps its place in a slot. -/
def addLook? (ahead negated : Bool) (size : Extended.Size) (body : Program → Option Program)
    (p : Program) : Option Program := do
  let goBack (p : Program) : Option Program :=
    if ahead then some p
    else if size.isConstant then some (p.push (.goBack size.least))
    else none
  if negated then
    let split := p.next
    let q ← body (← goBack (p.push (.split 0 0)))
    let q := q.push .failLook
    return q.patch split (.split (split + 1) q.next)
  else
    let (slot, p) := p.newSlot
    let q ← body (← goBack (p.push (.save slot)))
    return q.push (.restore slot)

def addRepetition? (least : Nat) (most : Option Nat) (greedy : Bool) (bodyIsNullable : Bool)
    (body : Program → Option Program) (p : Program) : Option Program := do
  match least, most with
  | 0, some 1 =>
    let split := p.next
    let q ← body (p.push (.split 0 0))
    return q.patch split (choice greedy (split + 1) q.next)
  | least, none =>
    if bodyIsNullable then
      let (count, p) := p.newSlot
      let (place, p) := p.newSlot
      let p := p.push (.startCount count)
      let loop := p.next
      let q := (← body (p.push .accept)).push (.jump loop)
      return q.patch loop (.repeatProgress least q.next count place greedy)
    else if least = 0 then
      let split := p.next
      let q := (← body (p.push .accept)).push (.jump split)
      return q.patch split (choice greedy (split + 1) q.next)
    else if least = 1 then
      let q ← body p
      return q.push (choice greedy p.next (q.next + 1))
    else counted
  | _, some _ => counted
where
  /-- Counts the rounds in a slot. -/
  counted : Option Program := do
    let (count, p) := p.newSlot
    let p := p.push (.startCount count)
    let loop := p.next
    let q := (← body (p.push .accept)).push (.jump loop)
    return q.patch loop (.repeatBody least most q.next count greedy)

/-- Leaves an expression to an automaton if it is not hard and stands in none that is; does
something else otherwise. -/
def unlessPlain (referenced : List Nat) (hard : Bool) (e : Extended) (p : Program)
    (otherwise : Program → Option Program) : Option Program :=
  if !hard && !e.isHard referenced then addPlain? [e] p else otherwise p

mutual

/-- Adds the instructions of an expression.  An expression that is not hard and stands in none that
is `hard` is left to an automaton. -/
def add? (referenced : List Nat) (hard : Bool) : Extended → Program → Option Program
  | .empty, p => unlessPlain referenced hard .empty p some
  | .literal c false, p => some (p.push (.literal [c]))
  | .literal c true, p => addPlain? [.literal c true] p
  | .oneOf text ignoreCase, p => addPlain? [.oneOf text ignoreCase] p
  | .any lineFeeds, p => some (p.push (.any lineFeeds))
  | .assertion a, p => some (p.push (.assertion a))
  | .concat items, p => unlessPlain referenced hard (.concat items) p fun p => do
    let (front, back) := plainEnds referenced hard items
    let p ← addPlain? (items.take front) p
    let p ← addItems? referenced front (items.length - front - back) items p
    addPlain? (items.drop (items.length - back)) p
  | .alternation branches, p => unlessPlain referenced hard (.alternation branches) p fun p =>
    addBranches? referenced hard branches p
  | .group index body, p => unlessPlain referenced hard (.group index body) p fun p => do
    let p ← add? referenced hard body (p.push (.save (2 * index)))
    return p.push (.save (2 * index + 1))
  | .repetition body least most greedy, p =>
    unlessPlain referenced hard (.repetition body least most greedy) p fun p =>
      let hardBody := hard || !(least = 0 && most = some 1)
      addRepetition? least most greedy (body.size.least = 0)
        (fun p => add? referenced hardBody body p) p
  | .look ahead negated (.alternation branches), p =>
    let size := Extended.sizeOfAny branches
    if ahead || size.isConstant then
      addLook? ahead negated size (fun p =>
        unlessPlain referenced false (.alternation branches) p fun p =>
          addBranches? referenced false branches p) p
    else addLookBranches? referenced negated branches p
  | .look ahead negated body, p =>
    addLook? ahead negated body.size (fun p => add? referenced false body p) p
  | .backReference index, p => some (p.push (.backReference index))
  | .groupMatched index, p => some (p.push (.groupMatched index))
  | .atomic body, p => do
    let p ← add? referenced false body (p.push .beginAtomic)
    return p.push .endAtomic
  | .keepOut, p => some (p.push (.save 0))
  | .searchStart, p => some (p.push .searchStart)
  | .conditional condition yes no, p => do
    let split := p.next + 1
    let q := (p.push .beginAtomic).push (.split 0 0)
    let q := (← add? referenced hard condition q).push .endAtomic
    let q ← add? referenced hard yes q
    let jump := q.next
    let r ← add? referenced hard no (q.push (.jump 0))
    return (r.patch jump (.jump r.next)).patch split (.split (split + 1) (jump + 1))

def addItems? (referenced : List Nat) (skipped count : Nat) :
    List Extended → Program → Option Program
  | [], p => some p
  | item :: items, p =>
    if 0 < skipped then addItems? referenced (skipped - 1) count items p
    else if 0 < count then
      (add? referenced true item p).bind fun p => addItems? referenced 0 (count - 1) items p
    else some p

def addBranches? (referenced : List Nat) (hard : Bool) : List Extended → Program → Option Program
  | [], p => some p
  | [branch], p => add? referenced hard branch p
  | branch :: branches, p => do
    let split := p.next
    let q ← add? referenced hard branch (p.push (.split 0 0))
    let jump := q.next
    let r ← addBranches? referenced hard branches (q.push (.jump 0))
    return (r.patch jump (.jump r.next)).patch split (.split (split + 1) (jump + 1))

def addLookBranches? (referenced : List Nat) (negated : Bool) :
    List Extended → Program → Option Program
  | [], p => some p
  | branch :: branches, p => do
    let look (p : Program) : Option Program :=
      addLook? false negated branch.size (fun p => add? referenced false branch p) p
    if negated || branches.isEmpty then
      addLookBranches? referenced negated branches (← look p)
    else
      let split := p.next
      let q ← look (p.push (.split 0 0))
      let jump := q.next
      let r ← addLookBranches? referenced negated branches (q.push (.jump 0))
      return (r.patch jump (.jump r.next)).patch split (.split (split + 1) (jump + 1))

end

/-- The program that searches for an expression: it starts at each place in turn. -/
def ofExtended? (e : Extended) (referenced : List Nat) : Option Program := do
  let start : Program := ⟨#[.split 3 1, .any true, .jump 0, .save 0], 2 * (e.groups.length + 1)⟩
  let p ← add? referenced true e start
  return (p.push (.save 1)).push .accept

end Program

end ChannelGateway.Regex

import ChannelGateway.Regex.Plain
import ChannelGateway.Unicode.Classes
import ChannelGateway.Unicode.Folding
/-!
# Core expressions

A plain expression means a core expression: its flags are worked in, its classes are
sets of characters and its groups are numbered.  An expression that names an unknown
property means nothing.
-/

namespace ChannelGateway.Regex

inductive Core where
  | empty
  | chars (set : CharSet)
  | place (assertion : Assertion)
  | concat (first second : Core)
  | alternative (first second : Core)
  | repetition (body : Core) (least : Nat) (most : Option Nat) (greedy : Bool)
  /-- A numbered group, counted from 1. -/
  | group (index : Nat) (body : Core)
deriving Inhabited

namespace Core

/-- Whether an expression may match without reading a character. -/
def isNullable : Core → Bool
  | empty | place _ => true
  | chars _ => false
  | concat first second => first.isNullable && second.isNullable
  | alternative first second => first.isNullable || second.isNullable
  | repetition body least .. => least = 0 || body.isNullable
  | group _ body => body.isNullable

end Core

def Shorthand.chars : Shorthand → CharSet
  | digit => Unicode.digits
  | space => Unicode.whiteSpace
  | word => Unicode.wordChars

def PropertyQuery.chars? : PropertyQuery → Option CharSet
  | named name => Unicode.charsNamed? name
  | withValue name value => Unicode.charsWithValue? name value

def withSign (negated : Bool) (s : CharSet) : CharSet := if negated then s.complement else s

/-- A set, together with what differs from its characters in case if case is ignored. -/
def closed (ignoreCase : Bool) (s : CharSet) : CharSet := if ignoreCase then s.withCases else s

def SetOperator.apply : SetOperator → CharSet → CharSet → CharSet
  | intersection => .intersection
  | difference => .difference
  | symmetricDifference => .symmetricDifference

namespace ClassSet

mutual

/-- The characters of a class.  Case is ignored before a class is negated or combined. -/
def chars? (ignoreCase : Bool) : ClassSet → Option CharSet
  | range low high => some (.range low.toNat high.toNat)
  | ascii chars negated => some (withSign negated (closed ignoreCase chars))
  | property query negated => query.chars?.map fun s => withSign negated (closed ignoreCase s)
  | shorthand kind negated _ => some (withSign negated kind.chars)
  | bracketed negated content =>
    (content.chars? ignoreCase).map fun s => withSign negated (closed ignoreCase s)
  | union items => (charsOfAll? ignoreCase items).map .unions
  | operation operator left right =>
    (left.chars? ignoreCase).bind fun l => (right.chars? ignoreCase).map fun r =>
      operator.apply (closed ignoreCase l) (closed ignoreCase r)

def charsOfAll? (ignoreCase : Bool) : List ClassSet → Option (List CharSet)
  | [] => some []
  | item :: items =>
    (item.chars? ignoreCase).bind fun s => (charsOfAll? ignoreCase items).map (s :: ·)

end

end ClassSet

structure Modes where
  ignoreCase : Bool := false
  multiLine : Bool := false
  dotMatchesAll : Bool := false
  swapGreed : Bool := false
deriving DecidableEq, Repr

namespace Modes

/-- The flags after a change; `none` for lines that end with carriage returns and for
matching bytes. -/
def change? (modes : Modes) (change : Flag × Bool) : Option Modes :=
  match change with
  | (.ignoreCase, on) => some { modes with ignoreCase := on }
  | (.multiLine, on) => some { modes with multiLine := on }
  | (.dotMatchesAll, on) => some { modes with dotMatchesAll := on }
  | (.swapGreed, on) => some { modes with swapGreed := on }
  | (.verbose, _) | (.unicode, true) | (.carriageReturns, false) => some modes
  | (.unicode, false) | (.carriageReturns, true) => none

def place (modes : Modes) (assertion : Assertion) : Assertion :=
  match assertion, modes.multiLine with
  | .lineStart, false => .textStart
  | .lineEnd, false => .textEnd
  | assertion, _ => assertion

end Modes

def dotChars (modes : Modes) : CharSet :=
  if modes.dotMatchesAll then .all else (CharSet.single '\n').complement

namespace Plain

mutual

/-- What an expression means under flags, where `groups` groups come before it: the core
expression, the flags after it and the number of groups. -/
def core? (modes : Modes) (groups : Nat) : Plain → Option (Core × Modes × Nat)
  | empty => some (.empty, modes, groups)
  | flags changes => (changes.foldlM Modes.change? modes).map fun modes => (.empty, modes, groups)
  | literal c => some (.chars (closed modes.ignoreCase (.single c)), modes, groups)
  | bell => some (.chars (.single '\x07'), modes, groups)
  | dot => some (.chars (dotChars modes), modes, groups)
  | assertion a => some (.place (modes.place a), modes, groups)
  | property query negated =>
    (ClassSet.chars? modes.ignoreCase (.property query negated)).map fun s =>
      (.chars s, modes, groups)
  | shorthand kind negated _ => some (.chars (withSign negated kind.chars), modes, groups)
  | bracketed negated content =>
    (ClassSet.chars? modes.ignoreCase (.bracketed negated content)).map fun s =>
      (.chars s, modes, groups)
  | repetition body least most greedy => do
    let (body, after, groups) ← body.core? modes groups
    return (.repetition body least most (greedy != modes.swapGreed), after, groups)
  | group .capture body => do
    let (body, _, after) ← body.core? modes (groups + 1)
    return (.group (groups + 1) body, modes, after)
  | group (.flags changes) body => do
    let (body, _, groups) ← body.core? (← changes.foldlM Modes.change? modes) groups
    return (body, modes, groups)
  | concat items => do
    let (items, modes, groups) ← coreOfAll? modes groups items
    return (items.foldr .concat .empty, modes, groups)
  | alternation branches => do
    let (branches, modes, groups) ← coreOfAll? modes groups branches
    match branches.reverse with
    | last :: before =>
      return (before.foldl (fun rest b => .alternative b rest) last, modes, groups)
    | [] => return (.empty, modes, groups)

def coreOfAll? (modes : Modes) (groups : Nat) : List Plain → Option (List Core × Modes × Nat)
  | [] => some ([], modes, groups)
  | item :: items => do
    let (item, modes, groups) ← item.core? modes groups
    let (items, modes, groups) ← coreOfAll? modes groups items
    return (item :: items, modes, groups)

end

end Plain

end ChannelGateway.Regex

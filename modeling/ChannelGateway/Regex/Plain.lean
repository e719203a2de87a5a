import ChannelGateway.Unicode.Names
/-!
# Plain expressions

The expressions that a finite automaton can match: characters, classes, places, repetitions, groups
and alternatives, as they are written.
-/

namespace ChannelGateway.Regex

/-- A part of a pattern, as the numbers of characters that follow its start and its end. -/
structure Span where
  start : Nat
  stop : Nat
deriving DecidableEq, Repr

inductive Flag where
  | ignoreCase
  | multiLine
  | dotMatchesAll
  | swapGreed
  | unicode
  | carriageReturns
  | verbose
deriving DecidableEq, Repr

inductive Assertion where
  | textStart
  | textEnd
  /-- The start of a line, or of the text where lines are not told apart. -/
  | lineStart
  | lineEnd
  | wordBoundary
  | noWordBoundary
  | wordStart
  | wordEnd
  /-- No character of a word before the place. -/
  | wordStartHalf
  /-- No character of a word after the place. -/
  | wordEndHalf
deriving DecidableEq, Repr

inductive Shorthand where
  | digit
  | space
  | word
deriving DecidableEq, Repr

inductive PropertyQuery where
  | named (name : String)
  | withValue (name value : String)
deriving DecidableEq, Repr

inductive SetOperator where
  | intersection
  | difference
  | symmetricDifference
deriving DecidableEq, Repr

inductive ClassSet where
  | range (low high : Char)
  /-- A class of ASCII characters by its name. -/
  | ascii (chars : CharSet) (negated : Bool)
  | property (query : PropertyQuery) (negated : Bool)
  | shorthand (kind : Shorthand) (negated : Bool) (span : Span)
  | bracketed (negated : Bool) (content : ClassSet)
  | union (items : List ClassSet)
  | operation (operator : SetOperator) (left right : ClassSet)
deriving Inhabited

inductive GroupKind where
  | capture
  | flags (changes : List (Flag × Bool))
deriving DecidableEq, Repr

inductive Plain where
  | empty
  /-- Flags for what follows in the group. -/
  | flags (changes : List (Flag × Bool))
  | literal (c : Char)
  /-- The escape of the bell, which is told apart from its character. -/
  | bell
  | dot
  | assertion (assertion : Assertion)
  | property (query : PropertyQuery) (negated : Bool)
  | shorthand (kind : Shorthand) (negated : Bool) (span : Span)
  /-- A bracketed class. -/
  | bracketed (negated : Bool) (content : ClassSet)
  | repetition (body : Plain) (least : Nat) (most : Option Nat) (greedy : Bool)
  | group (kind : GroupKind) (body : Plain)
  | concat (items : List Plain)
  | alternation (branches : List Plain)
deriving Inhabited

namespace ClassSet

def ofItems : List ClassSet → ClassSet
  | [item] => item
  | items => union items

mutual

def depth : ClassSet → Nat
  | range .. | ascii .. | property .. | shorthand .. => 0
  | bracketed _ content => content.depth + 1
  | union [] => 0
  | union items => depthOfAll items + 1
  | operation _ left right => max left.depth right.depth + 1

def depthOfAll : List ClassSet → Nat
  | [] => 0
  | item :: items => max item.depth (depthOfAll items)

end

mutual

def shorthands : ClassSet → List (Shorthand × Bool × Span)
  | range .. | ascii .. | property .. => []
  | shorthand kind negated span => [(kind, negated, span)]
  | bracketed _ content => content.shorthands
  | union items => shorthandsOfAll items
  | operation _ left right => left.shorthands ++ right.shorthands

def shorthandsOfAll : List ClassSet → List (Shorthand × Bool × Span)
  | [] => []
  | item :: items => item.shorthands ++ shorthandsOfAll items

end

end ClassSet

namespace Plain

def ofItems : List Plain → Plain
  | [] => empty
  | [item] => item
  | items => concat items

def ofBranches : List Plain → Plain
  | [branch] => branch
  | branches => alternation branches

mutual

def depth : Plain → Nat
  | empty | flags _ | literal _ | bell | dot | assertion _ | property .. | shorthand .. => 0
  | bracketed _ content => content.depth + 1
  | repetition body .. | group _ body => body.depth + 1
  | concat items | alternation items => depthOfAll items + 1

def depthOfAll : List Plain → Nat
  | [] => 0
  | item :: items => max item.depth (depthOfAll items)

end

mutual

def shorthands : Plain → List (Shorthand × Bool × Span)
  | empty | flags _ | literal _ | bell | dot | assertion _ | property .. => []
  | shorthand kind negated span => [(kind, negated, span)]
  | bracketed _ content => content.shorthands
  | repetition body .. | group _ body => body.shorthands
  | concat items | alternation items => shorthandsOfAll items

def shorthandsOfAll : List Plain → List (Shorthand × Bool × Span)
  | [] => []
  | item :: items => item.shorthands ++ shorthandsOfAll items

end

mutual

def hasBell : Plain → Bool
  | empty | flags _ | literal _ | dot | assertion _ | property .. | shorthand .. | bracketed .. =>
    false
  | bell => true
  | repetition body .. | group _ body => body.hasBell
  | concat items | alternation items => anyHasBell items

def anyHasBell : List Plain → Bool
  | [] => false
  | item :: items => item.hasBell || anyHasBell items

end

end Plain

end ChannelGateway.Regex

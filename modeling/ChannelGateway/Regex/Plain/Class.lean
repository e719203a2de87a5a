import ChannelGateway.Regex.Plain.Escape
/-!
# Bracketed classes

A class in brackets holds characters, ranges, shorthands, properties and further classes, and
combines what stands on both sides of `&&`, `--` and `~~`, from left to right.
-/

namespace ChannelGateway.Regex.Plain

def asciiNamed? (name : String) : Option CharSet :=
  let span (low high : Char) : CharSet := .range low.toNat high.toNat
  let letters : CharSet := .union (span 'A' 'Z') (span 'a' 'z')
  match name with
  | "alnum" => some (.union (span '0' '9') letters)
  | "alpha" => some letters
  | "ascii" => some (.range 0 0x7F)
  | "blank" => some (.union (.single '\t') (.single ' '))
  | "cntrl" => some (.union (.range 0 0x1F) (.single '\x7f'))
  | "digit" => some (span '0' '9')
  | "graph" => some (span '!' '~')
  | "lower" => some (span 'a' 'z')
  | "print" => some (span ' ' '~')
  | "punct" => some (.unions [span '!' '/', span ':' '@', span '[' '\x60', span '\x7b' '~'])
  | "space" => some (.union (span '\t' '\r') (.single ' '))
  | "upper" => some (span 'A' 'Z')
  | "word" => some (.unions [span '0' '9', letters, .single '_'])
  | "xdigit" => some (.unions [span '0' '9', span 'A' 'F', span 'a' 'f'])
  | _ => none

def asciiClass? (text : List Char) : Option (ClassSet × List Char) :=
  match text with
  | '[' :: ':' :: rest =>
    let (negated, rest) := match rest with
      | '^' :: rest => (true, rest)
      | rest => (false, rest)
    let name := rest.takeWhile (· ≠ ':')
    match rest.drop name.length with
    | ':' :: ']' :: after =>
      (asciiNamed? (String.ofList name)).map fun chars => (.ascii chars negated, after)
    | _ => none
  | _ => none

/-- The character after a hyphen that decides whether the hyphen makes a range.  In verbose patterns
white space and the first mark of a comment do not count. -/
def afterHyphen? (verbose : Bool) (text : List Char) : Option Char :=
  let rest := text.dropWhile Unicode.isWhiteSpace
  let rest := match rest with
    | '#' :: rest => rest.dropWhile Unicode.isWhiteSpace
    | rest => rest
  if verbose && !rest.isEmpty then rest.head? else text.head?

def readClassAtom (skip : Skip) : List Char → Except Fault (Plain × List Char)
  | [] => .error .malformed
  | '\\' :: rest => readEscape skip rest
  | c :: rest => .ok (.literal c, rest)

def literal? : Plain → Option Char
  | literal c => some c
  | bell => some '\x07'
  | _ => none

def classItem? (p : Plain) : Option ClassSet :=
  match p with
  | property query negated => some (.property query negated)
  | shorthand kind negated span => some (.shorthand kind negated span)
  | p => p.literal?.map fun c => .range c c

def readClassRange (skip : Skip) (verbose : Bool) (text : List Char) :
    Except Fault (ClassSet × List Char) := do
  let (first, rest) ← readClassAtom skip text
  let rest := skip rest
  let isRange := match rest with
    | '-' :: after =>
      let next := afterHyphen? verbose after
      next != some ']' && next != some '-'
    | _ => false
  if rest.isEmpty then throw .malformed
  if !isRange then
    match classItem? first with
    | some item => return (item, rest)
    | none => throw .malformed
  let (last, rest) ← readClassAtom skip (skip (rest.drop 1))
  match first.literal?, last.literal? with
  | some low, some high => if low ≤ high then return (.range low high, rest) else throw .malformed
  | _, _ => throw .malformed

/-- Reads what stands first in a class: whether it is negated, and the hyphens or the closing
bracket that stand for themselves there. -/
def readClassOpening (skip : Skip) (text : List Char) :
    Except Fault (Bool × List ClassSet × List Char) :=
  let (negated, text) := match skip text with
    | '^' :: rest => (true, skip rest)
    | text => (false, text)
  match spelledAll skip (· = '-') text with
  | ([], ']' :: rest) =>
    if (skip rest).isEmpty then .error .malformed else .ok (negated, [.range ']' ']'], skip rest)
  | (hyphens, rest) =>
    if rest.isEmpty then .error .malformed
    else .ok (negated, hyphens.map fun c => .range c c, rest)

def joinOperands (before : Option (SetOperator × ClassSet)) (items : List ClassSet) : ClassSet :=
  match before with
  | some (operator, left) => .operation operator left (.ofItems items.reverse)
  | none => .ofItems items.reverse

def setOperator? : List Char → Option (SetOperator × List Char)
  | '&' :: '&' :: rest => some (.intersection, rest)
  | '-' :: '-' :: rest => some (.difference, rest)
  | '~' :: '~' :: rest => some (.symmetricDifference, rest)
  | _ => none

/-- Reads a class up to its closing bracket.  `before` is what stood before the last operator, and
`items` holds what was read since, the last item first. -/
def readClassItems (skip : Skip) (verbose : Bool) :
    Nat → Option (SetOperator × ClassSet) → List ClassSet → List Char →
      Except Fault (ClassSet × List Char)
  | 0, _, _, _ => .error .malformed
  | fuel + 1, before, items, text => do
    let text := skip text
    if let some (operator, rest) := setOperator? text then
      return ← readClassItems skip verbose fuel (some (operator, joinOperands before items)) [] rest
    match text with
    | ']' :: rest => return (joinOperands before items, rest)
    | '[' :: rest =>
      match asciiClass? text with
      | some (item, rest) => readClassItems skip verbose fuel before (item :: items) rest
      | none => do
        let (negated, first, rest) ← readClassOpening skip rest
        let (content, rest) ← readClassItems skip verbose fuel none first.reverse rest
        readClassItems skip verbose fuel before (.bracketed negated content :: items) rest
    | text => do
      let (item, rest) ← readClassRange skip verbose text
      readClassItems skip verbose fuel before (item :: items) rest

def readClass (skip : Skip) (verbose : Bool) (text : List Char) :
    Except Fault (Plain × List Char) := do
  let (negated, first, rest) ← readClassOpening skip text
  let (content, rest) ← readClassItems skip verbose (text.length + 1) none first.reverse rest
  return (.bracketed negated content, rest)

end ChannelGateway.Regex.Plain

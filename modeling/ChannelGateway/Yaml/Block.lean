import ChannelGateway.Yaml.Cursor
/-!
# Block scalars

A literal scalar keeps its line breaks; a folded one joins lines that do not start with a blank.
The line breaks at its end are clipped to one, stripped or kept, as its header says.
-/

namespace ChannelGateway.Yaml.Block

/-- What happens to the line breaks at the end. -/
inductive Chomping where
  | clip
  | strip
  | keep
deriving DecidableEq

structure Header where
  chomping : Chomping
  /-- The indentation relative to the surrounding block, if it is given. -/
  increment : Option Nat

def readChomping (c : Cursor) : Option Chomping × Cursor :=
  if c.startsWith '+' then (some .keep, c.advance 1)
  else if c.startsWith '-' then (some .strip, c.advance 1)
  else (none, c)

/-- Reads an indentation indicator, if there is one; it must not be zero. -/
def readIncrement? (c : Cursor) : Option (Option Nat × Cursor) :=
  match c.peek with
  | some ch =>
    if ch = '0' then none
    else if ch.isDigit then some (some (ch.toNat - '0'.toNat), c.advance 1)
    else some (none, c)
  | none => some (none, c)

/-- Reads the indicators in either order, and the rest of the line. -/
def readHeader? (c : Cursor) : Option (Header × Cursor) :=
  let (before, c) := readChomping c
  match readIncrement? c with
  | none => none
  | some (increment, c) =>
    let (after, c) := if before.isNone && increment.isSome then readChomping c else (none, c)
    c.finishLine?.map fun c => (⟨(before.or after).getD .clip, increment⟩, c)

/-- Empty lines: their breaks, the deepest column reached, and where the next line's text starts. -/
structure Breaks where
  text : List Char
  deepest : Nat
  cursor : Cursor

/-- Reads indentation and empty lines.  Without an indentation all leading spaces are read; a tab
must not stand in for indentation. -/
def readBreaks? (indent : Option Nat) (text : List Char) (deepest : Nat) (c : Cursor) :
    Nat → Option Breaks
  | 0 => none
  | fuel + 1 =>
    let room := match indent with
      | none => c.rest.length
      | some n => n - c.column
    let spaces := ((c.rest.take room).takeWhile (· = ' ')).length
    let c := c.advance spaces
    let deepest := max deepest c.column
    let inIndentation := indent.all fun n => decide (c.column < n)
    if inIndentation && c.startsWith '\t' then none
    else if c.nextIs isBreak then
      let (lineBreak, c) := c.takeBreak
      readBreaks? indent (text ++ lineBreak) deepest c fuel
    else some ⟨text, deepest, c⟩

/-- The text read so far, with what has been seen after the last line but not yet added. -/
structure Progress where
  text : List Char
  /-- The break at the end of the last line. -/
  lineBreak : List Char
  /-- The empty lines after it. -/
  emptyLines : List Char
  /-- Whether the last line starts with a blank. -/
  blankStart : Bool

def readLines? (isLiteral : Bool) (indent : Nat) (p : Progress) (c : Cursor) :
    Nat → Option (Progress × Cursor)
  | 0 => none
  | fuel + 1 =>
    if c.column ≠ indent ∨ c.atEnd then some (p, c)
    else
      let blankStart := c.nextIs isBlank
      let joined :=
        if !isLiteral && p.lineBreak == ['\n'] && !p.blankStart && !blankStart then
          if p.emptyLines.isEmpty then [' '] else []
        else p.lineBreak
      let (line, c) := c.takeWhile (!isBreak ·)
      let (lineBreak, c) := c.takeBreak
      match readBreaks? (some indent) [] 0 c (c.rest.length + 1) with
      | none => none
      | some breaks =>
        let text := p.text ++ joined ++ p.emptyLines ++ line
        readLines? isLiteral indent ⟨text, lineBreak, breaks.text, blankStart⟩ breaks.cursor fuel

def read? (isLiteral : Bool) (outer : Int) (c : Cursor) : Option (List Char × Cursor) :=
  match readHeader? (c.advance 1) with
  | none => none
  | some (header, c) =>
    let given := header.increment.map fun n => (max outer 0).toNat + n
    match readBreaks? given [] 0 c (c.rest.length + 1) with
    | none => none
    | some breaks =>
      let indent := given.getD (max breaks.deepest (max (outer + 1) 1).toNat)
      match readLines? isLiteral indent ⟨[], [], breaks.text, false⟩ breaks.cursor
          (breaks.cursor.rest.length + 1) with
      | none => none
      | some (p, c) =>
        let text := match header.chomping with
          | .strip => p.text
          | .clip => p.text ++ p.lineBreak
          | .keep => p.text ++ p.lineBreak ++ p.emptyLines
        some (text, c)

end ChannelGateway.Yaml.Block

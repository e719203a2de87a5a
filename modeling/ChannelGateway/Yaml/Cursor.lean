/-!
# Reading position in YAML text

A cursor is the text that is left together with the line, column and index reached.  Only spaces,
tabs and line breaks count as white space.
-/

namespace ChannelGateway.Yaml

def isBreak (c : Char) : Bool :=
  c = '\n' || c = '\r' || c = '\u0085' || c = '\u2028' || c = '\u2029'

def isBlank (c : Char) : Bool := c = ' ' || c = '\t'

def isNameChar (c : Char) : Bool := c.isAlphanum || c = '_' || c = '-'

def isPrintable (c : Char) : Bool :=
  let n := c.toNat
  n = 0x09 || n = 0x0A || n = 0x0D || (0x20 ≤ n && n ≤ 0x7E) || n = 0x85 ||
    (0xA0 ≤ n && n ≤ 0xD7FF) || (0xE000 ≤ n && n ≤ 0xFFFD) || 0x10000 ≤ n

structure Cursor where
  rest : List Char
  line : Nat
  column : Nat
  index : Nat

namespace Cursor

def start (text : List Char) : Cursor := ⟨text, 0, 0, 0⟩

def peek (c : Cursor) : Option Char := c.rest.head?

def peekAt (c : Cursor) (distance : Nat) : Option Char := c.rest[distance]?

def atEnd (c : Cursor) : Bool := c.rest.isEmpty

def nextIs (c : Cursor) (p : Char → Bool) : Bool := c.peek.any p

def startsWith (c : Cursor) (ch : Char) : Bool := c.peek == some ch

def spaceAt (c : Cursor) (distance : Nat) : Bool :=
  (c.peekAt distance).all fun ch => isBlank ch || isBreak ch

def atLineEnd (c : Cursor) : Bool := c.peek.all isBreak

def advance (c : Cursor) (n : Nat) : Cursor :=
  { c with rest := c.rest.drop n, column := c.column + n, index := c.index + n }

def takeWhile (c : Cursor) (p : Char → Bool) : List Char × Cursor :=
  let taken := c.rest.takeWhile p
  (taken, c.advance taken.length)

def skipWhile (c : Cursor) (p : Char → Bool) : Cursor := (c.takeWhile p).2

/-- Moves over one line break and tells how it reads: as a line feed, except for the two Unicode
separators, which are kept. -/
def takeBreak (c : Cursor) : List Char × Cursor :=
  let next (rest : List Char) (n : Nat) : Cursor := ⟨rest, c.line + 1, 0, c.index + n⟩
  match c.rest with
  | '\r' :: '\n' :: rest => (['\n'], next rest 2)
  | ch :: rest =>
    if ch = '\u2028' ∨ ch = '\u2029' then ([ch], next rest 1)
    else if isBreak ch then (['\n'], next rest 1)
    else ([], c)
  | [] => ([], c)

def skipBreak (c : Cursor) : Cursor := c.takeBreak.2

def skipComment (c : Cursor) : Cursor :=
  if c.startsWith '#' then c.skipWhile (!isBreak ·) else c

/-- Moves over blanks, a comment and the line break, where nothing else may be left on the line. -/
def finishLine? (c : Cursor) : Option Cursor :=
  let c := (c.skipWhile isBlank).skipComment
  if c.atLineEnd then some c.skipBreak else none

def atMarker (c : Cursor) (ch : Char) : Bool :=
  c.column = 0 && c.rest.take 3 == [ch, ch, ch] && c.spaceAt 3

def atDocumentMarker (c : Cursor) : Bool := c.atMarker '-' || c.atMarker '.'

end Cursor

end ChannelGateway.Yaml

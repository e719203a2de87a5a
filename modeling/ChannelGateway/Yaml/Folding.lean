import ChannelGateway.Yaml.Cursor
/-!
# Line folding

Inside a quoted or plain scalar, the white space between two words is read as one unit.  Blanks
within a line are kept.  A single line break becomes a space; of several, the first is dropped.
-/

namespace ChannelGateway.Yaml

/-- The white space met so far between two words of a scalar. -/
structure Gap where
  /-- Blanks before any line break. -/
  blanks : List Char
  /-- The first line break. -/
  first : List Char
  /-- The line breaks after the first. -/
  more : List Char
  /-- Whether a line break, possibly an escaped one, has been passed. -/
  broken : Bool

namespace Gap

def empty : Gap := ⟨[], [], [], false⟩

/-- White space that starts after an escaped line break, which itself leaves no trace. -/
def escaped : Gap := ⟨[], [], [], true⟩

def text (g : Gap) : List Char :=
  if !g.broken then g.blanks
  else if g.first = ['\n'] then (if g.more.isEmpty then [' '] else g.more)
  else g.first ++ g.more

def addBreak (g : Gap) (lineBreak : List Char) : Gap :=
  if g.broken then { g with more := g.more ++ lineBreak }
  else { g with first := lineBreak, broken := true }

/-- Reads white space into a gap.  `allowsTab` tells at which columns a tab may follow
a line break. -/
def read? (allowsTab : Nat → Bool) (g : Gap) (c : Cursor) : Nat → Option (Gap × Cursor)
  | 0 => some (g, c)
  | fuel + 1 =>
    match c.peek with
    | none => some (g, c)
    | some ch =>
      if isBlank ch then
        if g.broken then
          if ch = '\t' && !allowsTab c.column then none
          else read? allowsTab g (c.advance 1) fuel
        else read? allowsTab { g with blanks := g.blanks ++ [ch] } (c.advance 1) fuel
      else if isBreak ch then
        let (lineBreak, c) := c.takeBreak
        read? allowsTab (g.addBreak lineBreak) c fuel
      else some (g, c)

end Gap

end ChannelGateway.Yaml

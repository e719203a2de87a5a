import ChannelGateway.Yaml.Folding
/-!
# Plain scalars

An unquoted scalar runs over words and lines until an indicator, a comment or a shallower line.
-/

namespace ChannelGateway.Yaml.Plain

def isFlowIndicator (c : Char) : Bool :=
  c = ',' || c = '[' || c = ']' || c = '\x7b' || c = '\x7d'

/-- Whether a plain scalar ends at a character that is followed by `next`. -/
def endsAt (inFlow : Bool) (c : Char) (next : Option Char) : Bool :=
  (c = ':' && next.all fun ch => isBlank ch || isBreak ch) || (inFlow && isFlowIndicator c)

def readWord? (inFlow : Bool) (text : List Char) (c : Cursor) : Nat → Option (List Char × Cursor)
  | 0 => some (text, c)
  | fuel + 1 =>
    match c.rest with
    | [] => some (text, c)
    | ch :: after =>
      if isBlank ch || isBreak ch then some (text, c)
      else if inFlow && ch = ':' &&
        after.head?.any (fun next => isFlowIndicator next || next = '?') then
        none
      else if endsAt inFlow ch after.head? then some (text, c)
      else readWord? inFlow (text ++ [ch]) (c.advance 1) fuel

/-- A plain scalar, and whether its last line was followed by a line break. -/
structure Scalar where
  text : List Char
  cursor : Cursor
  brokenAfter : Bool

/-- Reads words and the gaps between them; `gap` is the white space before the next word. -/
def readWords? (inFlow : Bool) (indent : Int) (text : List Char) (gap : Gap) (c : Cursor) :
    Nat → Option Scalar
  | 0 => none
  | fuel + 1 =>
    if c.atDocumentMarker || c.startsWith '#' then some ⟨text, c, gap.broken⟩
    else match readWord? inFlow [] c (c.rest.length + 1) with
      | none => none
      | some (word, c) =>
        let (text, gap) :=
          if word.isEmpty then (text, gap) else (text ++ gap.text ++ word, Gap.empty)
        if !c.nextIs (fun ch => isBlank ch || isBreak ch) then some ⟨text, c, gap.broken⟩
        else match gap.read? (fun column => decide (indent ≤ column)) c (c.rest.length + 1) with
          | none => none
          | some (gap, c) =>
            if !inFlow && decide ((c.column : Int) < indent) then some ⟨text, c, gap.broken⟩
            else readWords? inFlow indent text gap c fuel

def read? (inFlow : Bool) (indent : Int) (c : Cursor) : Option Scalar :=
  readWords? inFlow (indent + 1) [] Gap.empty c (c.rest.length + 1)

end ChannelGateway.Yaml.Plain

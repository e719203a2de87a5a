import ChannelGateway.Json.Value
import ChannelGateway.Text.Percent
import ChannelGateway.Text.Segments
/-!
# Route patterns

A pattern such as `/lights/:id/dim` or `/user.:name.signedup` matches request paths segment by
segment.  A capture is a colon and a name of letters, digits and underscores; a colon without a
name is literal.  A pattern matches every path that starts with segments it matches: what is left
of the path is handed on under a positional key.
-/

namespace ChannelGateway

inductive Piece where
  | literal (text : List Char)
  | capture (name : List Char)
deriving DecidableEq, Repr

namespace Piece

/-- Whether a character may occur in a capture's name. -/
def isNameChar (c : Char) : Bool := c.isAlphanum || c = '_'

def consLiteral (c : Char) : List Piece → List Piece
  | literal text :: rest => literal (c :: text) :: rest
  | pieces => literal [c] :: pieces

/-- Splits a segment into literals and captures.  A name is as long as possible. -/
def ofSegment (segment : List Char) : List Piece :=
  match segment with
  | [] => []
  | c :: rest =>
    let name := rest.takeWhile isNameChar
    if c = ':' ∧ name ≠ [] then capture name :: ofSegment (rest.dropWhile isNameChar)
    else consLiteral c (ofSegment rest)
termination_by segment.length
decreasing_by
  · have := (List.dropWhile_sublist (l := rest) isNameChar).length_le
    simp only [List.length_cons]
    omega
  · simp

def text : Piece → List Char
  | literal text => text
  | capture name => ':' :: name

def name? : Piece → Option (List Char)
  | literal _ => none
  | capture name => some name

/-- The ways to cut a non-empty part off the front, the shortest first. -/
def cuts : List Char → List (List Char × List Char)
  | [] => []
  | c :: rest => ([c], rest) :: (cuts rest).map fun (front, back) => (c :: front, back)

/-- Matches pieces against a whole text.  A capture takes as little as possible, but at least
one character.  What it takes is written into the parameters, decoded, when the pieces behind
it have matched. -/
def matchInto : List Piece → List Char → StateM Fields Bool
  | [], input => pure input.isEmpty
  | literal text :: rest, input =>
    match text.isPrefixOf? input with
    | some after => matchInto rest after
    | none => pure false
  | capture name :: rest, input =>
    (cuts input).anyM fun (run, after) => do
      if ← matchInto rest after then
        modify (Fields.insert (String.ofList name) (.string (String.ofList (Percent.decode run))))
        return true
      else
        return false

end Piece

structure RoutePattern where
  segments : List (List Piece)
deriving DecidableEq, Repr

namespace RoutePattern

/-- The key of what is left of a path. -/
def remainderKey : String := "0"

/-- Reads a pattern.  A leading slash is implied, and empty segments are ignored. -/
def parse (text : List Char) : RoutePattern := ⟨(Segments.split text).map Piece.ofSegment⟩

/-- Writes a pattern, with a leading slash. -/
def text (p : RoutePattern) : List Char :=
  '/' :: Segments.join (p.segments.map fun pieces => pieces.flatMap Piece.text)

def captureNames (p : RoutePattern) : List (List Char) := p.segments.flatten.filterMap Piece.name?

def matchSegments (params : Fields) : List (List Piece) → List (List Char) → Option Fields
  | [], _ => some params
  | _ :: _, [] => none
  | pieces :: morePieces, segment :: moreSegments =>
    match (Piece.matchInto pieces segment).run params with
    | (true, params) => matchSegments params morePieces moreSegments
    | (false, _) => none

def matchPath? (p : RoutePattern) (path : List Char) : Option Fields :=
  let segments := Segments.split path
  if segments.length < p.segments.length then none
  else (matchSegments [] p.segments segments).map fun params =>
    match segments.drop p.segments.length with
    | [] => params
    | remainder =>
      Fields.insert remainderKey
        (.string (String.ofList (Percent.decode (Segments.join remainder)))) params

end RoutePattern

end ChannelGateway

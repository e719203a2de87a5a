import ChannelGateway.Text.Hex
import ChannelGateway.Yaml.Folding
/-!
# Quoted scalars

Inside single quotes a quote is written twice.  Inside double quotes a backslash starts an escape.
-/

namespace ChannelGateway.Yaml.Quoted

/-- What an escape stands for: a character, or a number of hexadecimal digits that spell one. -/
inductive Escape where
  | char (c : Char)
  | code (digits : Nat)

def escape? : Char → Option Escape
  | '0' => some (.char '\x00')
  | 'a' => some (.char '\x07')
  | 'b' => some (.char '\x08')
  | 't' => some (.char '\t')
  | '\t' => some (.char '\t')
  | 'n' => some (.char '\n')
  | 'v' => some (.char '\x0b')
  | 'f' => some (.char '\x0c')
  | 'r' => some (.char '\r')
  | 'e' => some (.char '\x1b')
  | ' ' => some (.char ' ')
  | '"' => some (.char '"')
  | '/' => some (.char '/')
  | '\\' => some (.char '\\')
  | 'N' => some (.char '\u0085')
  | '_' => some (.char '\u00a0')
  | 'L' => some (.char '\u2028')
  | 'P' => some (.char '\u2029')
  | 'x' => some (.code 2)
  | 'u' => some (.code 4)
  | 'U' => some (.code 8)
  | _ => none

def charOfCode? (code : Nat) : Option Char :=
  if h : code.isValidChar then some (Char.ofNatAux code h) else none

def readEscape? (c : Cursor) : Option (Char × Cursor) :=
  match (c.peekAt 1).bind escape? with
  | none => none
  | some (.char ch) => some (ch, c.advance 2)
  | some (.code digits) =>
    let spelled := (c.rest.drop 2).take digits
    if spelled.length < digits then none
    else match (Hex.ofDigits? spelled).bind charOfCode? with
      | none => none
      | some ch => some (ch, c.advance (2 + digits))

/-- A word of a quoted scalar: its text, where it ends, and whether an escaped line
break ended it. -/
structure Word where
  text : List Char
  cursor : Cursor
  brokenByEscape : Bool

def readWord? (single : Bool) (text : List Char) (c : Cursor) : Nat → Option Word
  | 0 => none
  | fuel + 1 =>
    match c.rest with
    | [] => some ⟨text, c, false⟩
    | ch :: after =>
      if isBlank ch || isBreak ch then some ⟨text, c, false⟩
      else if single then
        if ch = '\'' then
          if after.head? = some '\'' then readWord? single (text ++ ['\'']) (c.advance 2) fuel
          else some ⟨text, c, false⟩
        else readWord? single (text ++ [ch]) (c.advance 1) fuel
      else if ch = '"' then some ⟨text, c, false⟩
      else if ch = '\\' then
        if after.head?.any isBreak then some ⟨text, (c.advance 1).skipBreak, true⟩
        else match readEscape? c with
          | none => none
          | some (ch, c) => readWord? single (text ++ [ch]) c fuel
      else readWord? single (text ++ [ch]) (c.advance 1) fuel

def readWords? (single : Bool) (text : List Char) (c : Cursor) : Nat → Option (List Char × Cursor)
  | 0 => none
  | fuel + 1 =>
    if c.atDocumentMarker || c.atEnd then none
    else match readWord? single [] c (c.rest.length + 1) with
      | none => none
      | some word =>
        let text := text ++ word.text
        let c := word.cursor
        if c.startsWith (if single then '\'' else '"') then some (text, c.advance 1)
        else
          let gap := if word.brokenByEscape then Gap.escaped else Gap.empty
          match gap.read? (fun _ => true) c (c.rest.length + 1) with
          | none => none
          | some (gap, c) => readWords? single (text ++ gap.text) c fuel

def read? (single : Bool) (c : Cursor) : Option (List Char × Cursor) :=
  readWords? single [] (c.advance 1) (c.rest.length + 1)

end ChannelGateway.Yaml.Quoted

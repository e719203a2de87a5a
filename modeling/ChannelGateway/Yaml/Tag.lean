import ChannelGateway.Text.Utf8
import ChannelGateway.Text.Hex
import ChannelGateway.Yaml.Cursor
import ChannelGateway.Yaml.Token
/-!
# Anchors, tags and directives
-/

namespace ChannelGateway.Yaml

def endsAnchor (c : Char) : Bool :=
  isBlank c || isBreak c || c = '?' || c = ':' || c = ',' || c = ']' || c = '\x7d' ||
    c = '%' || c = '@' || c = '`'

def readAnchor? (c : Cursor) : Option (List Char × Cursor) :=
  let (name, c) := (c.advance 1).takeWhile isNameChar
  if name.isEmpty || !c.peek.all endsAnchor then none else some (name, c)

namespace Tag

/-- Whether a character may occur in a tag; a verbatim tag admits some flow indicators too. -/
def isUriChar (verbatim : Bool) (c : Char) : Bool :=
  isNameChar c || ";/?:@&=+$.%!~*'()".toList.contains c || (verbatim && ",[]".toList.contains c)

def unescape? (text : List Char) : Option (List Char) :=
  (bytes text).bind Utf8.decode?
where
  bytes : List Char → Option (List UInt8)
    | [] => some []
    | '%' :: a :: b :: rest =>
      (Hex.ofDigits? [a, b]).bind fun n => (bytes rest).map (UInt8.ofNat n :: ·)
    | c :: rest => if c = '%' then none else (bytes rest).map (String.utf8EncodeChar c ++ ·)

def readUri? (verbatim : Bool) (head : List Char) (c : Cursor) : Option (List Char × Cursor) :=
  let (taken, c) := c.takeWhile (isUriChar verbatim)
  if head.isEmpty && taken.isEmpty then none
  else (unescape? taken).map fun text => (head.drop 1 ++ text, c)

def readHandle? (c : Cursor) : Option (List Char × Cursor) :=
  if !c.startsWith '!' then none
  else
    let (name, c) := (c.advance 1).takeWhile isNameChar
    if c.startsWith '!' then some ('!' :: name ++ ['!'], c.advance 1) else some ('!' :: name, c)

/-- Whether a text is a handle with a closing exclamation mark. -/
def isClosedHandle (handle : List Char) : Bool :=
  1 < handle.length && handle.getLast? == some '!'

def readParts? (c : Cursor) : Option (List Char × List Char × Cursor) :=
  if c.peekAt 1 == some '<' then
    match readUri? true [] (c.advance 2) with
    | some (suffix, c) => if c.startsWith '>' then some ([], suffix, c.advance 1) else none
    | none => none
  else match readHandle? c with
    | none => none
    | some (handle, c) =>
      if isClosedHandle handle then
        (readUri? false [] c).map fun (suffix, c) => (handle, suffix, c)
      else
        (readUri? false handle c).map fun (suffix, c) =>
          if suffix.isEmpty then ([], ['!'], c) else (['!'], suffix, c)

/-- Reads a tag; white space has to follow, or a comma inside a flow collection. -/
def read? (inFlow : Bool) (c : Cursor) : Option (Token × Cursor) :=
  match readParts? c with
  | none => none
  | some (handle, suffix, c) =>
    if (inFlow && c.startsWith ',') || c.spaceAt 0 then
      some (.tag (String.ofList handle) (String.ofList suffix), c)
    else none

end Tag

namespace Directive

/-- Reads a version number of at most nine digits. -/
def readNumber? (c : Cursor) : Option (Nat × Cursor) :=
  let (digits, c) := c.takeWhile Char.isDigit
  if digits.isEmpty || 9 < digits.length then none
  else some (digits.foldl (fun n d => 10 * n + (d.toNat - '0'.toNat)) 0, c)

def readVersion? (c : Cursor) : Option (Token × Cursor) :=
  match readNumber? (c.skipWhile isBlank) with
  | none => none
  | some (major, c) =>
    if !c.startsWith '.' then none
    else (readNumber? (c.advance 1)).map fun (minor, c) => (.versionDirective major minor, c)

def readTag? (c : Cursor) : Option (Token × Cursor) :=
  match Tag.readHandle? (c.skipWhile isBlank) with
  | none => none
  | some (handle, c) =>
    if !(handle == ['!'] || Tag.isClosedHandle handle) || !c.nextIs isBlank then none
    else match Tag.readUri? true [] (c.skipWhile isBlank) with
      | none => none
      | some (expansion, c) =>
        if c.spaceAt 0 then
          some (.tagDirective (String.ofList handle) (String.ofList expansion), c)
        else none

/-- Reads a directive and the rest of its line, the cursor being at its percent sign. -/
def read? (c : Cursor) : Option (Token × Cursor) :=
  let (name, c) := (c.advance 1).takeWhile isNameChar
  if name.isEmpty || !c.spaceAt 0 then none
  else
    let parsed :=
      if name = "YAML".toList then readVersion? c
      else if name = "TAG".toList then readTag? c
      else none
    match parsed with
    | none => none
    | some (token, c) => c.finishLine?.map fun c => (token, c)

end Directive

end ChannelGateway.Yaml

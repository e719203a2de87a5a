import ChannelGateway.Regex.Plain
import ChannelGateway.Text.Hex
import ChannelGateway.Unicode.Classes
/-!
# Escapes of plain expressions

What a backslash and the characters after it stand for.  In verbose patterns blanks and comments may
stand between the characters of an escape; the readers take the function that steps over them.
-/

namespace ChannelGateway.Regex.Plain

inductive Fault where
  | malformed
  /-- It looks around or refers back. -/
  | unsupported
  /-- An escape that nothing is known of: the letter and what follows it. -/
  | unknownEscape (letter : Char) (rest : List Char)
deriving DecidableEq, Repr

/-- A function that steps over what has no meaning. -/
abbrev Skip := List Char → List Char

mutual

def skipBlanks : List Char → List Char
  | [] => []
  | c :: rest =>
    if Unicode.isWhiteSpace c then skipBlanks rest
    else if c = '#' then skipComment rest
    else c :: rest

def skipComment : List Char → List Char
  | [] => []
  | c :: rest => if c = '\n' then skipBlanks rest else skipComment rest

end

def spelled (skip : Skip) (kind : Char → Bool) : Nat → List Char → List Char × List Char
  | 0, text => ([], text)
  | _ + 1, [] => ([], [])
  | limit + 1, c :: rest =>
    if kind c then
      let (chars, rest) := spelled skip kind limit (skip rest)
      (c :: chars, rest)
    else ([], c :: rest)

def spelledAll (skip : Skip) (kind : Char → Bool) (text : List Char) : List Char × List Char :=
  spelled skip kind text.length text

def isMeta (c : Char) : Bool := "\\.+*?()|[]\x7b\x7d^$#&-~".toList.contains c

def isEscapable (c : Char) : Bool :=
  isMeta c || (c.toNat < 128 && !c.isAlphanum && c != '<' && c != '>')

def charOfHex? (digits : List Char) : Option Char :=
  let n := digits.foldl (fun n c => 16 * n + CharSet.hexValue c) 0
  if !digits.isEmpty && n.isValidChar then some (Char.ofNat n) else none

def isHexDigit (c : Char) : Bool := (Hex.digit? c).isSome

/-- Reads the number of a character: `count` digits, or any number of them in braces. -/
def readHex (skip : Skip) (count : Nat) (text : List Char) : Except Fault (Plain × List Char) :=
  match skip text with
  | '\x7b' :: rest =>
    match spelledAll skip isHexDigit (skip rest) with
    | (digits, '\x7d' :: rest) =>
      match charOfHex? digits with
      | some c => .ok (.literal c, skip rest)
      | none => .error .malformed
    | _ => .error .malformed
  | text =>
    let (digits, rest) := spelled skip isHexDigit count text
    match charOfHex? digits with
    | some c => if digits.length = count then .ok (.literal c, rest) else .error .malformed
    | none => .error .malformed

def splitAround? (mark : List Char) : List Char → Option (List Char × List Char)
  | [] => none
  | c :: rest =>
    match mark.isPrefixOf? (c :: rest) with
    | some after => some ([], after)
    | none => (splitAround? mark rest).map fun (before, after) => (c :: before, after)

def propertyOf (negated : Bool) (text : List Char) : Plain :=
  let withValue (negated : Bool) (parts : List Char × List Char) : Plain :=
    .property (.withValue (String.ofList parts.1) (String.ofList parts.2)) negated
  match splitAround? ['!', '='] text, splitAround? [':'] text, splitAround? ['='] text with
  | some parts, _, _ => withValue (!negated) parts
  | none, some parts, _ => withValue negated parts
  | none, none, some parts => withValue negated parts
  | none, none, none => .property (.named (String.ofList text)) negated

def readProperty (skip : Skip) (negated : Bool) (text : List Char) :
    Except Fault (Plain × List Char) :=
  match skip text with
  | [] | '\\' :: _ => .error .malformed
  | '\x7b' :: rest =>
    match spelledAll skip (· ≠ '\x7d') (skip rest) with
    | (name, _ :: rest) => .ok (propertyOf negated name, rest)
    | (_, []) => .error .malformed
  | c :: rest => .ok (.property (.named (String.ofList [c])) negated, skip rest)

/-- Reads what may follow `\b` in braces.  What cannot be a name is left to be read as a count. -/
def readBoundary (skip : Skip) (text : List Char) : Except Fault (Plain × List Char) :=
  match text with
  | '\x7b' :: rest =>
    match spelledAll skip (fun c => c.isAlpha || c = '-') (skip rest) with
    | ([], []) => .error .malformed
    | ([], _) => .ok (.assertion .wordBoundary, text)
    | (name, '\x7d' :: rest) =>
      match String.ofList name with
      | "start" => .ok (.assertion .wordStart, rest)
      | "end" => .ok (.assertion .wordEnd, rest)
      | "start-half" => .ok (.assertion .wordStartHalf, rest)
      | "end-half" => .ok (.assertion .wordEndHalf, rest)
      | _ => .error .malformed
    | _ => .error .malformed
  | text => .ok (.assertion .wordBoundary, text)

def shorthandOf? (c : Char) : Option Shorthand :=
  match c with
  | 'd' => some .digit
  | 's' => some .space
  | 'w' => some .word
  | _ => none

def readEscape (skip : Skip) : List Char → Except Fault (Plain × List Char)
  | [] => .error .malformed
  | c :: rest =>
    if c.isDigit then .error .unsupported
    else if isEscapable c then .ok (.literal c, rest)
    else match shorthandOf? c.toLower with
      | some kind => .ok (.shorthand kind c.isUpper ⟨rest.length + 2, rest.length⟩, rest)
      | none =>
        match c with
        | 'x' => readHex skip 2 rest
        | 'u' => readHex skip 4 rest
        | 'U' => readHex skip 8 rest
        | 'p' => readProperty skip false rest
        | 'P' => readProperty skip true rest
        | 'a' => .ok (.bell, rest)
        | 'f' => .ok (.literal '\x0c', rest)
        | 't' => .ok (.literal '\t', rest)
        | 'n' => .ok (.literal '\n', rest)
        | 'r' => .ok (.literal '\r', rest)
        | 'v' => .ok (.literal '\x0b', rest)
        | 'A' => .ok (.assertion .textStart, rest)
        | 'z' => .ok (.assertion .textEnd, rest)
        | 'b' => readBoundary skip rest
        | 'B' => .ok (.assertion .noWordBoundary, rest)
        | '<' => .ok (.assertion .wordStart, rest)
        | '>' => .ok (.assertion .wordEnd, rest)
        | _ => .error (.unknownEscape c rest)

end ChannelGateway.Regex.Plain

import ChannelGateway.Regex.Plain.Reader
/-!
# The dialect of schemas

Patterns of schemas are written in the dialect of ECMA 262.  There `\d` and `\w` stand for ASCII
characters, `\s` has a list of its own, and `\cA` is a control character.  A pattern is adapted by
writing these out.  Patterns that look around or refer back are taken as they are.
-/

namespace ChannelGateway.Regex

def Shorthand.writtenOut (kind : Shorthand) (negated : Bool) : List Char :=
  let members := match kind with
    | .digit => "0-9"
    | .space => " \t\n\r\x0b\x0c\u00a0\ufeff\u2003\u2029"
    | .word => "A-Za-z0-9_"
  '[' :: (if negated then ['^'] else []) ++ members.toList ++ [']']

def writeOut (text : List Char) : List (Shorthand × Bool × Span) → List Char
  | [] => text
  | (kind, negated, span) :: more =>
    text.take (text.length - span.start) ++ kind.writtenOut negated ++
      writeOut (text.drop (text.length - span.stop)) more

/-- Puts control characters in the place of their escapes; gives the pattern with its expression,
which is missing for patterns that are taken as they are. -/
def resolveControls? : Nat → List Char → Option (List Char × Option Plain)
  | 0, _ => none
  | fuel + 1, text =>
    match Plain.read text with
    | .ok expression => some (text, some expression)
    | .error .unsupported => some (text, none)
    | .error (.unknownEscape 'c' (letter :: rest)) =>
      if letter.isAlpha then
        resolveControls? fuel
          (text.take (text.length - rest.length - 3) ++ Char.ofNat (letter.toNat % 32) :: rest)
      else none
    | .error _ => none

/-- The adapted form of a pattern; `none` if it is none of the dialect.  There the bell
has no escape. -/
def adapt? (pattern : String) : Option String := do
  let chars := pattern.toList
  match ← resolveControls? (chars.length + 1) chars with
  | (text, none) => return String.ofList text
  | (text, some expression) =>
    if expression.hasBell then none
    let adapted := writeOut text expression.shorthands
    if (Plain.read adapted).toOption.isSome then return String.ofList adapted else none

end ChannelGateway.Regex

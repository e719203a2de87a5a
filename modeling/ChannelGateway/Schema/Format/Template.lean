import ChannelGateway.Text.Hex
/-!
# URI templates

A template is made of literal characters and expressions in braces.  An expression lists
variables with commas between them, after an operator if there is one; a variable may end in a
length or a star.
-/

namespace ChannelGateway.Text

inductive TemplatePlace where
  | literal
  /-- Hexadecimal digits of an escape, in a literal or in a variable. -/
  | digits (inVariable : Bool) (count : Nat)
  | expression
  | variableStart
  | variableName
  /-- The digits of a length after the first one, at most so many. -/
  | length (count : Nat)
  | lengthStart
  | variableEnd
deriving DecidableEq, Repr

namespace TemplatePlace

/-- Whether a character may occur in the name of a variable.  Case is ignored, so that the long s
and the sign of kelvins pass for letters. -/
def isNameChar (c : Char) : Bool := c.isAlphanum || c = '_' || c = '\u017f' || c = '\u212a'

def isLiteral (c : Char) : Bool := 0x20 < c.toNat && !"\"'<>%\\^\x60\x7b|\x7d".toList.contains c

def isOperator (c : Char) : Bool := "+#./;?&=,!@|".toList.contains c

def inVariable? (c : Char) : Option TemplatePlace :=
  if isNameChar c then some variableName else if c = '%' then some (digits true 2) else none

def afterVariable? (c : Char) : Option TemplatePlace :=
  match c with
  | ',' => some variableStart
  | '\x7d' => some literal
  | _ => none

def read? (place : TemplatePlace) (c : Char) : Option TemplatePlace :=
  match place with
  | literal =>
    if c = '\x7b' then some expression
    else if c = '%' then some (digits false 2)
    else if isLiteral c then some literal
    else none
  | digits inVariable count =>
    if (Hex.digit? c).isNone then none
    else if 1 < count then some (digits inVariable (count - 1))
    else some (if inVariable then variableName else literal)
  | expression => if isOperator c then some variableStart else inVariable? c
  | variableStart => inVariable? c
  | variableName =>
    match c with
    | ':' => some lengthStart
    | '*' => some variableEnd
    | c => (inVariable? c).or (afterVariable? c)
  | lengthStart => if c.isDigit && c ≠ '0' then some (length 3) else none
  | length count =>
    if 0 < count && c.isDigit then some (length (count - 1)) else afterVariable? c
  | variableEnd => afterVariable? c

end TemplatePlace

def isTemplate (text : List Char) : Bool := text.foldlM TemplatePlace.read? .literal = some .literal

end ChannelGateway.Text

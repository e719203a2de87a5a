import ChannelGateway.Json.Value
import ChannelGateway.Yaml.Content
/-!
# The meaning of YAML scalars

A plain scalar without a tag is a null, a boolean, an integer, a float, or else a string.  A quoted
or block scalar is a string.  The standard tags ask for one reading, whatever the style.
-/

namespace ChannelGateway.Yaml

def standardTag (name : String) : String := "tag:yaml.org,2002:" ++ name

def isLocalTag (tag : Option String) : Bool := tag.any fun t => t.toList.head? == some '!'

namespace Scalar

def isNull (text : String) : Bool := ["null", "Null", "NULL", "~"].contains text

def bool? (text : String) : Option Bool :=
  if ["true", "True", "TRUE"].contains text then some true
  else if ["false", "False", "FALSE"].contains text then some false
  else none

/-- Whether a text consists of several digits with a leading zero, after an optional sign.  Such a
text is no number. -/
def hasLeadingZero (text : List Char) : Bool :=
  match (Decimal.readSign text).2 with
  | '0' :: rest => !rest.isEmpty && rest.all Char.isDigit
  | _ => false

def readRadix? (radix : Nat) (digits : List Char) : Option Nat :=
  if digits.isEmpty then none
  else digits.foldlM (fun n c => (Hex.digit? c).bind fun d =>
    if d < radix then some (radix * n + d) else none) 0

/-- Reads an unsigned integer: decimal, or hexadecimal, octal or binary after `0x`, `0o` or `0b`. -/
def readUnsigned? (text : List Char) : Option Nat :=
  match text with
  | '0' :: 'x' :: rest => readRadix? 16 rest
  | '0' :: 'o' :: rest => readRadix? 8 rest
  | '0' :: 'b' :: rest => readRadix? 2 rest
  | _ => if hasLeadingZero text then none else readRadix? 10 text

def readInt? (text : List Char) : Option Int :=
  let (negative, unsigned) := Decimal.readSign text
  (readUnsigned? unsigned).map fun n => if negative then -(n : Int) else n

/-- The reading of a number: one that JSON can hold, or one it cannot. -/
inductive NumberReading where
  | number (value : Json)
  | tooLarge
  | none

/-- Reads an integer.  One that needs more than 64 bits but at most 128 has no JSON form; one that
needs even more is no integer at all. -/
def readInteger (text : List Char) : NumberReading :=
  match readInt? text with
  | none => .none
  | some n =>
    if JsonNumber.minInt ≤ n ∧ n ≤ JsonNumber.maxInt then .number (.ofInt n)
    else if -(Nat.pow 2 127 : Int) ≤ n ∧ n < (Nat.pow 2 128 : Int) then .tooLarge
    else .none

def readFloat? (text : List Char) : Option Json :=
  let unsigned := match text with
    | '+' :: rest => rest
    | _ => text
  let names (forms : List String) (text : List Char) : Bool := forms.contains (String.ofList text)
  if unsigned ≠ text ∧ unsigned.head?.any (fun c => c = '+' || c = '-') then none
  else if names [".inf", ".Inf", ".INF"] unsigned || names ["-.inf", "-.Inf", "-.INF"] text ||
      names [".nan", ".NaN", ".NAN"] text then some .null
  else ((Decimal.read? unsigned).bind Decimal.toDouble?).map fun d => .number (.double d)

/-- The value of a plain scalar without a tag. -/
def plainValue? (text : String) : Option Json :=
  if text.isEmpty || isNull text then some .null
  else match bool? text with
    | some b => some (.bool b)
    | none =>
      match readInteger text.toList with
      | .number n => some n
      | .tooLarge => none
      | .none =>
        let float := if hasLeadingZero text.toList then none else readFloat? text.toList
        some (float.getD (.string text))

def value? (tag : Option String) (text : String) (style : ScalarStyle) : Option Json :=
  match tag with
  | none => if style = .plain then plainValue? text else some (.string text)
  | some tag =>
    if isLocalTag tag then none
    else if tag = standardTag "bool" then (bool? text).map .bool
    else if tag = standardTag "int" then
      match readInteger text.toList with
      | .number n => some n
      | _ => none
    else if tag = standardTag "float" then readFloat? text.toList
    else if tag = standardTag "null" then if isNull text then some .null else none
    else some (.string text)

end Scalar

end ChannelGateway.Yaml

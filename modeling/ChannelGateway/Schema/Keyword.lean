import ChannelGateway.Json.Printer
import ChannelGateway.Regex.Search
import ChannelGateway.Schema.Content
import ChannelGateway.Schema.Format
/-!
# Schemas

A schema in the form in which values are checked against it: its keywords in the order in which they
are written, patterns and formats read, references replaced by what they lead to.  A schema may lead
back to itself, so what lies behind a reference is read when it is first needed.
-/

namespace ChannelGateway.Schema

inductive ValueType where
  | array
  | boolean
  | integer
  | null
  | number
  | object
  | string
deriving DecidableEq, Repr

namespace ValueType

def all : List ValueType := [array, boolean, integer, null, number, object, string]

def name : ValueType → String
  | array => "array"
  | boolean => "boolean"
  | integer => "integer"
  | null => "null"
  | number => "number"
  | object => "object"
  | string => "string"

def ofName? (name : String) : Option ValueType := all.find? (·.name = name)

/-- Whether a value has a type.  `wholeDoubles` tells whether a double without a fraction is an
integer. -/
def accepts (type : ValueType) (wholeDoubles : Bool) (value : Json) : Bool :=
  match type, value with
  | array, .array _ => true
  | boolean, .bool _ => true
  | integer, .number (.int _) => true
  | integer, .number (.double d) => wholeDoubles && d.isWhole
  | null, .null => true
  | number, .number _ => true
  | object, .object _ => true
  | string, .string _ => true
  | _, _ => false

end ValueType

inductive Bound where
  | minimum
  | maximum
  | exclusiveMinimum
  | exclusiveMaximum
deriving DecidableEq, Repr

def Bound.keyword : Bound → String
  | minimum => "minimum"
  | maximum => "maximum"
  | exclusiveMinimum => "exclusiveMinimum"
  | exclusiveMaximum => "exclusiveMaximum"

def Bound.accepts (bound : Bound) (limit number : JsonNumber) : Bool :=
  match bound with
  | minimum => decide (limit.toRat ≤ number.toRat)
  | maximum => decide (number.toRat ≤ limit.toRat)
  | exclusiveMinimum => decide (limit.toRat < number.toRat)
  | exclusiveMaximum => decide (number.toRat < limit.toRat)

inductive Measure where
  | characters
  | items
  | properties
deriving DecidableEq, Repr

def Measure.count? (measure : Measure) (value : Json) : Option Nat :=
  match measure, value with
  | characters, .string s => some s.length
  | items, .array elements => some elements.length
  | properties, .object fields => some fields.length
  | _, _ => none

def Measure.keyword (measure : Measure) (isLeast : Bool) : String :=
  (if isLeast then "min" else "max") ++
    match measure with
    | characters => "Length"
    | items => "Items"
    | properties => "Properties"

mutual

inductive Rule where
  /-- Every value fits. -/
  | anything
  /-- No value fits. -/
  | nothing
  /-- The values fit that every keyword accepts. -/
  | keywords (list : List Keyword)

/-- What one keyword, together with the ones that it depends on, asks of a value. -/
inductive Keyword where
  | type (types : List ValueType) (wholeDoubles : Bool)
  | enumeration (options : List Json)
  | const (value : Json)
  | bound (kind : Bound) (limit : JsonNumber)
  | multipleOf (divisor : JsonNumber)
  /-- At least, or at most, `count` of a measure. -/
  | size (measure : Measure) (isLeast : Bool) (count : Nat)
  | pattern (source : String) (regex : Regex)
  | format (name : String) (kind : Format)
  | uniqueItems
  | required (names : List String)
  | properties (declared : List (String × Rule))
  | patternProperties (patterns : List (String × Regex × Rule))
  /-- Properties that are neither declared nor match a pattern are checked by `rest`, or refused.
  The declared ones and the patterns are checked along. -/
  | additionalProperties (declared : Option (List (String × Rule)))
      (patterns : Option (List (String × Regex × Rule))) (rest : Option Rule)
  | propertyNames (names : Rule)
  /-- Under the given keyword: what the presence of a property asks of the object. -/
  | dependencies (keyword : String) (list : List (String × List String × Option Rule))
  /-- The items from the `first` one on. -/
  | items (first : Nat) (rule : Rule)
  /-- The leading items one by one, under the given keyword. -/
  | leadingItems (keyword : String) (rules : List Rule)
  /-- The items from the `first` one on, refused if there is no rule for them. -/
  | additionalItems (first : Nat) (rule : Option Rule)
  /-- No value fits, whatever its type: additional items where there can be no items at all. -/
  | noAdditionalItems
  /-- At least and at most so many items fit a rule.  `counts` tells whether those items count as
  taken care of. -/
  | contains (rule : Rule) (least most : Option Nat) (counts : Bool)
  | allOf (rules : List Rule)
  | anyOf (rules : List Rule)
  | oneOf (rules : List Rule)
  | not (source : Json) (rule : Rule)
  | condition (test : Rule) (consequence alternative : Option Rule)
  /-- Under the given keyword: the schema at another place. -/
  | reference (keyword : String) (target : Thunk Rule)
  | content (content : Content)
  | unevaluatedProperties (rule : Rule)
  | unevaluatedItems (rule : Rule)
  /-- A test without consequences.  It asks nothing, but it tells what it takes care of. -/
  | lonelyTest (test : Thunk Rule)
  /-- Further properties are taken care of by allowing all of them. -/
  | anyProperties
  /-- The items, or the ones after the leading ones, are taken care of by allowing all of them. -/
  | anyItems

end

instance : Inhabited Rule := ⟨.anything⟩

end ChannelGateway.Schema

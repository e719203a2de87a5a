import ChannelGateway.Schema.Evaluation
import ChannelGateway.Schema.Scope
/-!
# Reading keywords without schemas

The keywords whose values are types, limits, names, constants and texts.  A value of the wrong
kind is refused.
-/

namespace ChannelGateway.Schema

/-- What the meaning of a schema depends on besides its text. -/
structure Surroundings where
  registry : Registry
  draft : Draft
  /-- Whether formats are checked. -/
  formats : Bool
  /-- Whether the document around, or the reference that led here, brought in the vocabularies
  of which the newer drafts are made.  A part that declares such a draft on its own is left
  with the core. -/
  vocabularies : Bool
  scope : Scope

namespace Surroundings

def knows (s : Surroundings) (first : Draft) : Bool := s.draft.isAtLeast first

/-- Whether the keywords beyond references and formats are in force. -/
def hasVocabularies (s : Surroundings) : Bool := s.vocabularies || !s.knows .draft201909

end Surroundings

def readText (value : Json) : Except SchemaError String :=
  match value with
  | .string text => .ok text
  | value => .error (.wrongType value [.string])

def readList (value : Json) : Except SchemaError (List Json) :=
  match value with
  | .array items => .ok items
  | value => .error (.wrongType value [.array])

def readFields (value : Json) : Except SchemaError Fields :=
  match value with
  | .object fields => .ok fields
  | value => .error (.wrongType value [.object])

def readNumber (value : Json) : Except SchemaError JsonNumber :=
  match value with
  | .number n => .ok n
  | value => .error (.wrongType value [.number])

def readTexts (value : Json) : Except SchemaError (List String) :=
  do (← readList value).mapM readText

/-- The natural number nearest to a whole double among those of 64 bits. -/
def saturated (d : Double) : Nat := min d.toRat.num.toNat JsonNumber.maxInt.toNat

/-- A natural number.  `wholeDoubles` tells whether a double without a fraction counts as one, and
`negativeIsZero` whether a negative integer does. -/
def readCount (wholeDoubles negativeIsZero : Bool) (value : Json) : Except SchemaError Nat :=
  match value with
  | .number (.int n) =>
    if 0 ≤ n || negativeIsZero then .ok n.toNat
    else .error (.misfit value (.outOfBound .minimum (.int 0)))
  | .number (.double d) =>
    if wholeDoubles && d.isWhole then .ok (saturated d) else .error (.wrongType value [.integer])
  | value => .error (.wrongType value [.integer])

def readTypeName (value : Json) : Except SchemaError ValueType := do
  match ValueType.ofName? (← readText value) with
  | some type => return type
  | none => throw .unknownType

def readTypeNames (names : List Json) : Except SchemaError (List ValueType) := do
  let types ← names.mapM fun value => do
    match ValueType.ofName? (← readText value) with
    | some type => return type
    | none => throw (.misfit value (.notListed (ValueType.all.map fun type => .string type.name)))
  return ValueType.all.filter types.contains

def readTypes (value : Json) : Except SchemaError (List ValueType) :=
  match value with
  | .string _ => return [← readTypeName value]
  | .array [name] => return [← readTypeName name]
  | .array names => readTypeNames names
  | value => .error (.wrongType value [.array, .string])

/-- A pattern.  `refused` is the value that a refusal tells of. -/
def readPattern (source : String) (refused : Json) : Except SchemaError Regex :=
  match Regex.ofPattern? source with
  | some regex => .ok regex
  | none => .error (.misfit refused (.formatMissed "regex"))

/-- A bound; in draft 4 a flag beside it makes it exclusive. -/
def readBound (s : Surroundings) (fields : Fields) (inclusive exclusive : Bound) (limit : Json) :
    Except SchemaError Keyword := do
  let isExclusive := s.draft = .draft4 && fields.lookup exclusive.keyword = some (.bool true)
  return .bound (if isExclusive then exclusive else inclusive) (← readNumber limit)

/-- The encoding or the media type of content, which are checked together.  Names that are not
known ask nothing. -/
def readContent (fields : Fields) (key : String) (value : Json) :
    Except SchemaError (List Keyword) :=
  match key, fields.lookup "contentEncoding", fields.lookup "contentMediaType" with
  | "contentEncoding", _, some _ => return []
  | "contentEncoding", _, none => do
    return if (← readText value) = Content.encodingName then [.content .encoded] else []
  | _, encoding, _ => do
    if (← readText value) ≠ Content.mediaTypeName then return []
    match encoding with
    | none => return [.content .document]
    | some encoding =>
      return if (← readText encoding) = Content.encodingName then
        [.content .encodedDocument]
      else []

/-- Reads a keyword that holds no schemas; one that asks nothing of values gives no rule, and `none`
stands for any other keyword. -/
def readPlain? (s : Surroundings) (fields : Fields) (key : String) (value : Json) :
    Option (Except SchemaError (List Keyword)) :=
  let size (measure : Measure) (isLeast : Bool) : Except SchemaError (List Keyword) := do
    let whole := s.draft.countsWholeDoubles
    return [.size measure isLeast (← readCount whole whole value)]
  let since (first : Draft) (read : Except SchemaError (List Keyword)) :
      Except SchemaError (List Keyword) :=
    if s.knows first then read else .ok []
  match key with
  | "type" => some do return [.type (← readTypes value) s.draft.countsWholeDoubles]
  | "enum" => some do return [.enumeration (← readList value)]
  | "const" => some (since .draft6 (.ok [.const value]))
  | "minimum" => some do return [← readBound s fields .minimum .exclusiveMinimum value]
  | "maximum" => some do return [← readBound s fields .maximum .exclusiveMaximum value]
  | "exclusiveMinimum" =>
    some (since .draft6 do return [.bound .exclusiveMinimum (← readNumber value)])
  | "exclusiveMaximum" =>
    some (since .draft6 do return [.bound .exclusiveMaximum (← readNumber value)])
  | "multipleOf" => some do return [.multipleOf (← readNumber value)]
  | "minLength" => some (size .characters true)
  | "maxLength" => some (size .characters false)
  | "minItems" => some (size .items true)
  | "maxItems" => some (size .items false)
  | "minProperties" => some (size .properties true)
  | "maxProperties" => some (size .properties false)
  | "uniqueItems" => some (.ok (if value = .bool true then [.uniqueItems] else []))
  | "required" => some do return [.required (← readTexts value)]
  | "pattern" => some do
    let source ← readText value
    return [.pattern source (← readPattern source value)]
  | "format" => some do
    if !s.formats then return []
    let name ← readText value
    return ((Format.ofName? s.draft name).map (.format name)).toList
  | "contentEncoding" | "contentMediaType" =>
    some (if s.draft = .draft6 || s.draft = .draft7 then readContent fields key value else .ok [])
  | _ => none

end ChannelGateway.Schema

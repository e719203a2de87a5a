import ChannelGateway.Json.Value
/-!
# Schema identifiers

Every message schema and every schema inside it carries an identifier under a reserved key: its own
`$id`, or else the next number of a count that runs through the whole document.  The key is no JSON
Schema vocabulary, so it is removed before a schema is used for validation.
-/

namespace ChannelGateway.SchemaIds

def key : String := "x-parser-schema-id"

/-- The identifier of the `n`th schema without an `$id`. -/
def anonymousId (n : Nat) : String := "<anonymous-schema-" ++ toString n ++ ">"

inductive Position where
  /-- As the values of an object. -/
  | named
  /-- As its value, or as the elements of an array. -/
  | single
  /-- As the elements of an array. -/
  | listed
deriving DecidableEq

/-- The keywords that hold subschemas, in the order in which these are numbered. -/
def positions : List (String × Position) :=
  [("properties", .named), ("patternProperties", .named), ("definitions", .named),
    ("$defs", .named),
    ("items", .single), ("additionalItems", .single), ("additionalProperties", .single),
    ("contains", .single), ("propertyNames", .single), ("not", .single), ("if", .single),
    ("then", .single), ("else", .single),
    ("allOf", .listed), ("anyOf", .listed), ("oneOf", .listed)]

/-- Gives an object its own identifier, unless it has the reserved key already.  `n` is the last
number that was used. -/
def identify (fields : Fields) (n : Nat) : Fields × Nat :=
  if Fields.contains fields key then (fields, n)
  else match (fields.lookup "$id").bind Json.string? with
    | some id => (Fields.insert key (.string id) fields, n)
    | none => (Fields.insert key (.string (anonymousId (n + 1))) fields, n + 1)

mutual

def annotate (schema : Json) (n : Nat) : Json × Nat :=
  match schema with
  | .object fields =>
    let (own, n) := identify fields n
    let (fields, n) := annotatePositions positions fields own n
    (.object fields, n)
  | schema => (schema, n)
termination_by (sizeOf schema, 0)

def annotatePositions (keywords : List (String × Position)) (fields : List (String × Json))
    (result : List (String × Json)) (n : Nat) : List (String × Json) × Nat :=
  match keywords with
  | [] => (result, n)
  | (keyword, position) :: rest =>
    match _found : fields.lookup keyword with
    | none => annotatePositions rest fields result n
    | some child =>
      let (child, n) := annotateAt position child n
      annotatePositions rest fields (Fields.insert keyword child result) n
termination_by (sizeOf fields, keywords.length + 2)
decreasing_by
  · exact Prod.Lex.right _ (by simp)
  · exact Prod.Lex.left _ _ (Fields.sizeOf_lt_of_lookup ‹_›)
  · exact Prod.Lex.right _ (by simp)

def annotateAt (position : Position) (child : Json) (n : Nat) : Json × Nat :=
  match position, child with
  | .named, .object children =>
    let (children, n) := annotateFields children n
    (.object children, n)
  | .single, .array children =>
    let (children, n) := annotateItems children n
    (.array children, n)
  | .single, child => annotate child n
  | .listed, .array children =>
    let (children, n) := annotateItems children n
    (.array children, n)
  | _, child => (child, n)
termination_by (sizeOf child, 1)

def annotateItems (items : List Json) (n : Nat) : List Json × Nat :=
  match items with
  | [] => ([], n)
  | item :: rest =>
    let (item, n) := annotate item n
    let (rest, n) := annotateItems rest n
    (item :: rest, n)
termination_by (sizeOf items, 0)

def annotateFields (fields : List (String × Json)) (n : Nat) : List (String × Json) × Nat :=
  match fields with
  | [] => ([], n)
  | (k, value) :: rest =>
    let (value, n) := annotate value n
    let (rest, n) := annotateFields rest n
    ((k, value) :: rest, n)
termination_by (sizeOf fields, 0)

end

mutual

def strip : Json → Json
  | .array items => .array (stripItems items)
  | .object fields => .object (stripFields fields)
  | value => value

def stripItems : List Json → List Json
  | [] => []
  | item :: rest => strip item :: stripItems rest

def stripFields : List (String × Json) → List (String × Json)
  | [] => []
  | (k, value) :: rest =>
    if k = key then stripFields rest else (k, strip value) :: stripFields rest

end

end ChannelGateway.SchemaIds

import ChannelGateway.Schema.Reader.Plain
/-!
# Reading schemas

A schema is read into the rule that it stands for.  A reference is followed at once when it is met
for the first time; after that, what it leads to is read when a value gets there.
-/

namespace ChannelGateway.Schema

/-- A step of the reader, which remembers the references that have been followed. -/
abbrev SchemaReader := StateT (List String) (Except SchemaError)

abbrev ReadRule := Surroundings → Json → SchemaReader Rule

def Surroundings.enter (s : Surroundings) (schema : Json) : Except SchemaError Surroundings := do
  let draft := match draftOf s.draft schema with
    | .ok draft => draft
    | .error _ => .draft202012
  return { s with draft, scope := ← s.scope.enter draft schema }

def readPart (read : ReadRule) (s : Surroundings) (schema : Json) : SchemaReader Rule := do
  read (← s.enter schema) schema

/-- Reads a schema when it is needed.  One that cannot be read accepts everything. -/
def readLater (read : ReadRule) (s : Surroundings) (schema : Json) : Thunk Rule :=
  Thunk.mk fun _ => match (read s schema).run [] with
    | .ok (rule, _) => rule
    | .error _ => .anything

/-- What a reference leads to, read when it is needed. -/
def readResolved (read : ReadRule) (s : Surroundings) (found : Resolved) :
    Except SchemaError (Thunk Rule) := do
  let scope ← found.scope.enter s.draft found.content
  return readLater read { s with scope } found.content

/-- Reads a reference.  One that leads to nothing but itself asks nothing. -/
def readReference (read : ReadRule) (s : Surroundings) (keyword : String) (value : Json) :
    SchemaReader (List Keyword) := do
  let reference ← readText value
  let uri ← resolveUri s.scope.base reference
  let found ← followReference s.registry s.scope reference
  if (← get).contains uri then
    if found.content.get? keyword = some (.string reference) then return []
    return [.reference keyword (← readResolved read s found)]
  else
    modify (uri :: ·)
    let draft := match draftOf found.draft found.content with
      | .ok draft => draft
      | .error _ => .draft202012
    let vocabularies := draft.isAtLeast .draft201909
    let rule ← read { s with draft, vocabularies, scope := found.scope } found.content
    return [.reference keyword (.pure rule)]

def readNamed (read : ReadRule) (s : Surroundings) (schemas : Json) :
    SchemaReader (List (String × Rule)) := do
  (← readFields schemas).mapM fun (name, schema) => return (name, ← readPart read s schema)

def readListed (read : ReadRule) (s : Surroundings) (schemas : Json) :
    SchemaReader (List Rule) := do
  (← readList schemas).mapM (readPart read s)

def readPatterns (read : ReadRule) (s : Surroundings) (schemas : Json) :
    SchemaReader (List (String × Regex × Rule)) := do
  (← readFields schemas).mapM fun (source, schema) =>
    return (source, ← readPattern source schema, ← readPart read s schema)

/-- Reads a requirement that is a list of distinct names or, if `schemas` allows it, a schema. -/
def readDependency (read : ReadRule) (s : Surroundings) (names schemas : Bool)
    (requirement : Json) :
    SchemaReader (List String × Option Rule) := do
  match requirement, names, schemas with
  | .array list, true, false =>
    if areDistinct list then return (← readTexts requirement, none)
    else throw (.misfit requirement .repeatedItems)
  | .array _, true, true => return (← readTexts requirement, none)
  | requirement, _, true => return ([], some (← readPart read s requirement))
  | requirement, _, false => throw (.wrongType requirement [.array])

def readDependencies (read : ReadRule) (s : Surroundings) (key : String) (names schemas : Bool)
    (value : Json) : SchemaReader (List Keyword) := do
  return [.dependencies key (← (← readFields value).mapM fun (name, requirement) =>
    return (name, ← readDependency read s names schemas requirement))]

def closesObjects (fields : Fields) : Bool :=
  match fields.lookup "additionalProperties" with
  | some (.bool false) | some (.object _) => true
  | _ => false

def readAdditionalProperties (read : ReadRule) (s : Surroundings) (fields : Fields) (value : Json) :
    SchemaReader (List Keyword) := do
  let patterns ← (fields.lookup "patternProperties").mapM (readPatterns read s)
  match value with
  | .bool true => return [.anyProperties]
  | value =>
    let declared ← (fields.lookup "properties").mapM (readNamed read s)
    let rest ← if value = .bool false then pure none else some <$> readPart read s value
    return [.additionalProperties declared patterns rest]

def readItems (read : ReadRule) (s : Surroundings) (fields : Fields) (value : Json) :
    SchemaReader (List Keyword) := do
  match value with
  | .array _ =>
    let leading := Keyword.leadingItems "items" (← readListed read s value)
    return if s.knows .draft202012 then [leading, .anyItems] else [leading]
  | .object _ | .bool false =>
    let leading := ((fields.lookup "prefixItems").bind Json.items?).getD []
    return [.items leading.length (← readPart read s value)]
  | _ => return [.anyItems]

def readAdditionalItems (read : ReadRule) (s : Surroundings) (fields : Fields) (value : Json) :
    SchemaReader (List Keyword) := do
  match fields.lookup "items", value with
  | some (.array leading), .bool false => return [.additionalItems leading.length none]
  | some (.array leading), .object _ =>
    return [.additionalItems leading.length (some (← readPart read s value))]
  | some (.array _), _ => return [.anyItems]
  | some (.bool false), _ => return [.noAdditionalItems]
  | _, _ => return []

def readCondition (read : ReadRule) (s : Surroundings) (fields : Fields) (value : Json) :
    SchemaReader (List Keyword) := do
  let consequence? (key : String) : SchemaReader (Option Rule) :=
    (fields.lookup key).mapM (readPart read s)
  if Fields.contains fields "then" || Fields.contains fields "else" then
    return [.condition (← readPart read s value) (← consequence? "then") (← consequence? "else")]
  else match s.enter value with
    | .ok inside => return [.lonelyTest (readLater read inside value)]
    | .error _ => return []

/-- Reads a keyword that holds schemas.  Keywords that ask nothing of values give no rule. -/
def readNested (read : ReadRule) (s : Surroundings) (fields : Fields) (key : String)
    (value : Json) :
    SchemaReader (List Keyword) := do
  let since (first : Draft) (keywords : SchemaReader (List Keyword)) :
      SchemaReader (List Keyword) :=
    if s.knows first then keywords else return []
  match key with
  | "$ref" => readReference read s key value
  | "$recursiveRef" =>
    if s.draft ≠ .draft201909 then return []
    let _ ← readText value
    return [.reference key (← readResolved read s (← followRecursive s.registry s.scope))]
  | "$dynamicRef" => since .draft202012 (readReference read s key value)
  | "properties" =>
    if closesObjects fields then return []
    return [.properties (← readNamed read s value)]
  | "patternProperties" =>
    if closesObjects fields then return []
    return [.patternProperties (← readPatterns read s value)]
  | "additionalProperties" => readAdditionalProperties read s fields value
  | "propertyNames" =>
    since .draft6 do
      match value with
      | .object _ | .bool false => return [.propertyNames (← readPart read s value)]
      | _ => return []
  | "dependencies" => readDependencies read s key true true value
  | "dependentRequired" => since .draft201909 (readDependencies read s key true false value)
  | "dependentSchemas" => since .draft201909 (readDependencies read s key false true value)
  | "prefixItems" => since .draft202012 do return [.leadingItems key (← readListed read s value)]
  | "items" => readItems read s fields value
  | "additionalItems" => readAdditionalItems read s fields value
  | "contains" =>
    since .draft6 do
      let limit? (key : String) : SchemaReader (Option Nat) :=
        if s.knows .draft201909 then (fields.lookup key).mapM fun limit =>
          readCount true false limit
        else return none
      let least ← limit? "minContains"
      let most ← limit? "maxContains"
      return [.contains (← readPart read s value) least most (s.knows .draft202012)]
  | "allOf" => return [.allOf (← readListed read s value)]
  | "anyOf" => return [.anyOf (← readListed read s value)]
  | "oneOf" => return [.oneOf (← readListed read s value)]
  | "not" => return [.not value (← readPart read s value)]
  | "if" => since .draft7 (readCondition read s fields value)
  | "unevaluatedProperties" =>
    since .draft201909 do return [.unevaluatedProperties (← readPart read s value)]
  | "unevaluatedItems" => since .draft201909 do return [.unevaluatedItems (← readPart read s value)]
  | _ => return []

def readKeyword (read : ReadRule) (s : Surroundings) (fields : Fields) (key : String)
    (value : Json) :
    SchemaReader (List Keyword) :=
  let isCore := ["$ref", "$recursiveRef", "$dynamicRef", "format"].contains key
  if !isCore && !s.hasVocabularies then return []
  else match readPlain? s fields key value with
    | some result => result
    | none => readNested read s fields key value

/-- The fields of a schema that count: in the older drafts, a reference alone. -/
def effectiveFields (draft : Draft) (fields : Fields) : Fields :=
  match draft.isolatesReferences, fields.lookup "$ref" with
  | true, some reference => [("$ref", reference)]
  | _, _ => fields

def readRuleTo : Nat → ReadRule
  | 0, _, _ => return .anything
  | _ + 1, _, .bool true => return .anything
  | _ + 1, _, .bool false => return .nothing
  | depth + 1, s, .object fields => do
    let fields := effectiveFields s.draft fields
    return .keywords (← fields.flatMapM fun (key, value) =>
      readKeyword (readRuleTo depth) s fields key value)
  | _ + 1, _, schema => throw (.notASchema schema)

end ChannelGateway.Schema

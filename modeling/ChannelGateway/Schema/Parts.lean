import ChannelGateway.Schema.Draft
import ChannelGateway.Schema.Error
/-!
# Schemas inside schemas

Each draft knows the keywords that hold schemas, and only there a schema is looked for.  A schema
may declare a draft of its own, and it may give itself an identifier, relative to which the
references inside it are read.
-/

namespace ChannelGateway.Schema

inductive Place where
  /-- No schema. -/
  | data
  /-- A schema. -/
  | schema
  /-- An array of schemas. -/
  | listed
  /-- An object whose values are schemas. -/
  | named
  /-- A schema or an array of schemas. -/
  | either
deriving DecidableEq, Repr

def holders : List (String × Draft × Draft × Place) :=
  [("allOf", .draft4, .draft202012, .listed), ("anyOf", .draft4, .draft202012, .listed),
    ("oneOf", .draft4, .draft202012, .listed), ("prefixItems", .draft202012, .draft202012, .listed),
    ("definitions", .draft4, .draft202012, .named), ("properties", .draft4, .draft202012, .named),
    ("patternProperties", .draft4, .draft202012, .named),
    ("dependencies", .draft4, .draft7, .named), ("$defs", .draft201909, .draft202012, .named),
    ("dependentSchemas", .draft201909, .draft202012, .named),
    ("items", .draft4, .draft201909, .either), ("items", .draft202012, .draft202012, .schema),
    ("not", .draft4, .draft202012, .schema), ("additionalItems", .draft4, .draft201909, .schema),
    ("additionalProperties", .draft4, .draft202012, .schema),
    ("contains", .draft6, .draft202012, .schema), ("propertyNames", .draft6, .draft202012, .schema),
    ("if", .draft7, .draft202012, .schema), ("then", .draft7, .draft202012, .schema),
    ("else", .draft7, .draft202012, .schema),
    ("contentSchema", .draft201909, .draft202012, .schema),
    ("unevaluatedItems", .draft201909, .draft202012, .schema),
    ("unevaluatedProperties", .draft201909, .draft202012, .schema)]

def Draft.place (draft : Draft) (keyword : String) : Place :=
  match holders.find? fun (name, first, last, _) =>
      name = keyword && draft.isAtLeast first && last.isAtLeast draft with
  | some (_, _, _, place) => place
  | none => .data

/-- The draft that a schema declares, or else the one around it. -/
def draftOf (around : Draft) (schema : Json) : Except SchemaError Draft :=
  match (schema.get? "$schema").bind Json.string? with
  | none => .ok around
  | some text =>
    let uri := Draft.trimUri text
    match Draft.ofUri? uri with
    | some draft => .ok draft
    | none => .error (.unknownDraft uri)

/-- The identifier that a schema gives itself.  In the older drafts it gives none beside a
reference, and one that is only a fragment names a place instead. -/
def ownId? (draft : Draft) (schema : Json) : Option String :=
  ((schema.get? draft.idKeyword).bind Json.string?).bind fun id =>
    if draft.isolatesReferences &&
      ((schema.get? "$ref").isSome || id.toList.head? = some '#') then none
    else some (Draft.trimUri id)

def resolveUri (base reference : String) : Except SchemaError String :=
  match Uri.resolve base reference with
  | .ok uri => .ok uri
  | .error obstacle => .error (.unresolvable reference base obstacle)

/-- The base inside a schema: its identifier read relative to the base around it. -/
def baseOf (draft : Draft) (base : String) (schema : Json) : Except SchemaError String :=
  match ownId? draft schema with
  | some id => resolveUri base id
  | none => .ok base

structure Part where
  draft : Draft
  /-- The identifier relative to which its references are read. -/
  base : String
  /-- The number of schemas around it. -/
  depth : Nat
  content : Json
  /-- What is wrong with its draft or its identifier. -/
  fault : Option SchemaError

def Part.ofSchema (draft : Draft) (base : String) (depth : Nat) (content : Json) : Part :=
  match draftOf draft content with
  | .error e => ⟨draft, base, depth, content, some e⟩
  | .ok draft =>
    match baseOf draft base content with
    | .error e => ⟨draft, base, depth, content, some e⟩
    | .ok base => ⟨draft, base, depth, content, none⟩

mutual

def partsAt (draft : Draft) (base : String) (depth : Nat) (place : Place) (value : Json) :
    List Part :=
  match value, place with
  | .object fields, .schema | .object fields, .either =>
    let part := Part.ofSchema draft base depth (.object fields)
    part :: partsAtKeywords part.draft part.base (depth + 1) fields
  | .object fields, .named => partsAtValues draft base depth fields
  | .array items, .listed | .array items, .either => partsAtItems draft base depth items
  | _, _ => []

def partsAtKeywords (draft : Draft) (base : String) (depth : Nat) : List (String × Json) → List Part
  | [] => []
  | (keyword, value) :: rest =>
    partsAt draft base depth (draft.place keyword) value ++ partsAtKeywords draft base depth rest

def partsAtValues (draft : Draft) (base : String) (depth : Nat) : List (String × Json) → List Part
  | [] => []
  | (_, value) :: rest =>
    partsAt draft base depth .schema value ++ partsAtValues draft base depth rest

def partsAtItems (draft : Draft) (base : String) (depth : Nat) : List Json → List Part
  | [] => []
  | item :: rest => partsAt draft base depth .schema item ++ partsAtItems draft base depth rest

end

/-- The schemas of a document, level by level, outer ones first. -/
def parts (draft : Draft) (base : String) (document : Json) : List Part :=
  let found := partsAt draft base 0 .schema document
  let deepest := found.foldl (fun deepest part => max deepest part.depth) 0
  (List.range (deepest + 1)).flatMap fun level => found.filter (·.depth = level)

end ChannelGateway.Schema

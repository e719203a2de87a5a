import ChannelGateway.Schema.Draft
/-!
# Pieces of meta-schemas

Short forms for the schemas of which the meta-schemas are put together.
-/

namespace ChannelGateway.Schema.Metaschema

def typed (name : String) : Json := .object [("type", .string name)]

def typedOr (name : String) (default : Json) : Json :=
  .object [("type", .string name), ("default", default)]

def ref (target : String) : Json := .object [("$ref", .string target)]

def dynamicRef (target : String) : Json := .object [("$dynamicRef", .string target)]

def recursiveRef : Json := .object [("$recursiveRef", .string "#")]

def formatted (name : String) : Json :=
  .object [("type", .string "string"), ("format", .string name)]

def matching (pattern : String) : Json :=
  .object [("type", .string "string"), ("pattern", .string pattern)]

def mapOf (values : Json) : Json :=
  .object [("type", .string "object"), ("additionalProperties", values), ("default", .object [])]

def schemaArray (schema : Json) : Json :=
  .object [("type", .string "array"), ("minItems", .ofNat 1), ("items", schema)]

def naturals : Json := .object [("type", .string "integer"), ("minimum", .ofNat 0)]

def simpleTypes : Json :=
  .object
    [("enum", .array (["array", "boolean", "integer", "null", "number", "object", "string"].map
    Json.string))]

def typeKeyword (one : Json) : Json :=
  .object [("anyOf", .array [one,
    .object [("type", .string "array"), ("items", one), ("minItems", .ofNat 1),
      ("uniqueItems", .bool true)]])]

def anyOf (options : List Json) (default : List (String × Json)) : Json :=
  .object (("anyOf", .array options) :: default)

/-- The places in the same document where the older drafts keep their shared definitions. -/
def definition (name : String) : Json := ref ("#/definitions/" ++ name)

def sharedDefinitions : Json :=
  .object
    [("schemaArray", schemaArray (ref "#")),
      ("nonNegativeInteger", naturals),
      ("nonNegativeIntegerDefault0", .object [("allOf", .array
        [definition "nonNegativeInteger", .object [("default", .ofNat 0)]])]),
      ("simpleTypes", simpleTypes),
      ("stringArray", .object [("type", .string "array"), ("items", typed "string"),
        ("uniqueItems", .bool true), ("default", .array [])])]

def itemsKeyword (default : Json) : Json :=
  anyOf [ref "#", definition "schemaArray"] [("default", default)]

def dependenciesKeyword : Json :=
  .object [("type", .string "object"),
    ("additionalProperties", anyOf [ref "#", definition "stringArray"] [])]

end ChannelGateway.Schema.Metaschema

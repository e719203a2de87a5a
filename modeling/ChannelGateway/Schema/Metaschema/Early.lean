import ChannelGateway.Schema.Metaschema.Pieces
/-!
# Meta-schemas of the drafts 4, 6 and 7

The order of keywords and properties is the one in which a schema is checked.
-/

namespace ChannelGateway.Schema.Metaschema

def draft4 : Json :=
  .object
    [("id", .string (Draft.draft4.uri ++ "#")),
      ("$schema", .string (Draft.draft4.uri ++ "#")),
      ("description", .string "Core schema meta-schema"),
      ("definitions", .object
        [("schemaArray", schemaArray (ref "#")),
          ("positiveInteger", naturals),
          ("positiveIntegerDefault0", .object [("allOf", .array
            [definition "positiveInteger", .object [("default", .ofNat 0)]])]),
          ("simpleTypes", simpleTypes),
          ("stringArray", .object [("type", .string "array"), ("items", typed "string"),
            ("minItems", .ofNat 1), ("uniqueItems", .bool true)])]),
      ("type", .string "object"),
      ("properties", .object
        [("id", typed "string"),
          ("$schema", typed "string"),
          ("title", typed "string"),
          ("description", typed "string"),
          ("default", .object []),
          ("multipleOf", .object [("type", .string "number"), ("minimum", .ofNat 0),
            ("exclusiveMinimum", .bool true)]),
          ("maximum", typed "number"),
          ("exclusiveMaximum", typed "boolean"),
          ("minimum", typed "number"),
          ("exclusiveMinimum", typed "boolean"),
          ("maxLength", definition "positiveInteger"),
          ("minLength", definition "positiveIntegerDefault0"),
          ("pattern", formatted "regex"),
          ("additionalItems", anyOf [typed "boolean", ref "#"] [("default", .object [])]),
          ("items", itemsKeyword (.object [])),
          ("maxItems", definition "positiveInteger"),
          ("minItems", definition "positiveIntegerDefault0"),
          ("uniqueItems", typedOr "boolean" (.bool false)),
          ("maxProperties", definition "positiveInteger"),
          ("minProperties", definition "positiveIntegerDefault0"),
          ("required", definition "stringArray"),
          ("additionalProperties", anyOf [typed "boolean", ref "#"] [("default", .object [])]),
          ("definitions", mapOf (ref "#")),
          ("properties", mapOf (ref "#")),
          ("patternProperties", mapOf (ref "#")),
          ("dependencies", dependenciesKeyword),
          ("enum", typed "array"),
          ("type", typeKeyword (definition "simpleTypes")),
          ("format", typed "string"),
          ("allOf", definition "schemaArray"),
          ("anyOf", definition "schemaArray"),
          ("oneOf", definition "schemaArray"),
          ("not", ref "#")]),
      ("dependencies", .object
        [("exclusiveMaximum", .array [.string "maximum"]),
          ("exclusiveMinimum", .array [.string "minimum"])]),
      ("default", .object [])]

def numericAndStringProperties : Fields :=
  [("multipleOf", .object [("type", .string "number"), ("exclusiveMinimum", .ofNat 0)]),
    ("maximum", typed "number"),
    ("exclusiveMaximum", typed "number"),
    ("minimum", typed "number"),
    ("exclusiveMinimum", typed "number"),
    ("maxLength", definition "nonNegativeInteger"),
    ("minLength", definition "nonNegativeIntegerDefault0"),
    ("pattern", formatted "regex"),
    ("additionalItems", ref "#")]

def containerProperties (anything patterns : Json) : Fields :=
  [("items", itemsKeyword anything),
    ("maxItems", definition "nonNegativeInteger"),
    ("minItems", definition "nonNegativeIntegerDefault0"),
    ("uniqueItems", typedOr "boolean" (.bool false)),
    ("contains", ref "#"),
    ("maxProperties", definition "nonNegativeInteger"),
    ("minProperties", definition "nonNegativeIntegerDefault0"),
    ("required", definition "stringArray"),
    ("additionalProperties", ref "#"),
    ("definitions", mapOf (ref "#")),
    ("properties", mapOf (ref "#")),
    ("patternProperties", patterns),
    ("dependencies", dependenciesKeyword),
    ("propertyNames", ref "#"),
    ("const", anything)]

def combiningProperties : Fields :=
  [("allOf", definition "schemaArray"),
    ("anyOf", definition "schemaArray"),
    ("oneOf", definition "schemaArray"),
    ("not", ref "#")]

def draft6 : Json :=
  .object
    [("$schema", .string (Draft.draft6.uri ++ "#")),
      ("$id", .string (Draft.draft6.uri ++ "#")),
      ("title", .string "Core schema meta-schema"),
      ("definitions", sharedDefinitions),
      ("type", .array [.string "object", .string "boolean"]),
      ("properties", .object
        ([("$id", formatted "uri-reference"),
          ("$schema", formatted "uri"),
          ("$ref", formatted "uri-reference"),
          ("title", typed "string"),
          ("description", typed "string"),
          ("default", .object []),
          ("examples", .object [("type", .string "array"), ("items", .object [])])] ++
        numericAndStringProperties ++
        containerProperties (.object []) (.object
          [("type", .string "object"), ("additionalProperties", ref "#"),
            ("propertyNames", .object [("format", .string "regex")])]) ++
        [("enum", typed "array"),
          ("type", typeKeyword (definition "simpleTypes")),
          ("format", typed "string")] ++
        combiningProperties)),
      ("default", .object [])]

def draft7 : Json :=
  .object
    [("$schema", .string (Draft.draft7.uri ++ "#")),
      ("$id", .string (Draft.draft7.uri ++ "#")),
      ("title", .string "Core schema meta-schema"),
      ("definitions", sharedDefinitions),
      ("type", .array [.string "object", .string "boolean"]),
      ("properties", .object
        ([("$id", formatted "uri-reference"),
          ("$schema", formatted "uri"),
          ("$ref", formatted "uri-reference"),
          ("$comment", typed "string"),
          ("title", typed "string"),
          ("description", typed "string"),
          ("default", .bool true),
          ("readOnly", typedOr "boolean" (.bool false)),
          ("writeOnly", typedOr "boolean" (.bool false)),
          ("examples", .object [("type", .string "array"), ("items", .bool true)])] ++
        numericAndStringProperties ++
        containerProperties (.bool true) (.object
          [("type", .string "object"), ("additionalProperties", ref "#"),
            ("propertyNames", .object [("format", .string "regex")]), ("default", .object [])]) ++
        [("enum", .object [("type", .string "array"), ("items", .bool true)]),
          ("type", typeKeyword (definition "simpleTypes")),
          ("format", typed "string"),
          ("contentMediaType", typed "string"),
          ("contentEncoding", typed "string"),
          ("if", ref "#"),
          ("then", ref "#"),
          ("else", ref "#")] ++
        combiningProperties)),
      ("default", .bool true)]

end ChannelGateway.Schema.Metaschema

import ChannelGateway.Schema.Metaschema.Pieces
/-!
# Meta-schemas of the drafts 2019-09 and 2020-12

These are made of vocabularies, each a document of its own, which refer back to the whole.
-/

namespace ChannelGateway.Schema.Metaschema

inductive SelfReference where
  | recursive
  | dynamic

/-- The draft that uses a way to refer to the outermost schema. -/
def SelfReference.draft : SelfReference → Draft
  | recursive => .draft201909
  | dynamic => .draft202012

def SelfReference.schema : SelfReference → Json
  | recursive => recursiveRef
  | dynamic => dynamicRef "#meta"

def SelfReference.anchor : SelfReference → String × Json
  | recursive => ("$recursiveAnchor", .bool true)
  | dynamic => ("$dynamicAnchor", .string "meta")

def vocabularyUri (draft : Draft) (name : String) : String := draft.folder ++ "meta/" ++ name

def vocabularyField (draft : Draft) (names : List (String × Bool)) : String × Json :=
  ("$vocabulary", .object (names.map fun (name, isRequired) =>
    (draft.folder ++ "vocab/" ++ name, .bool isRequired)))

def vocabularyTitle (name : String) : String :=
  (match name with
    | "core" => "Core vocabulary meta-schema"
    | "applicator" => "Applicator vocabulary meta-schema"
    | "unevaluated" => "Unevaluated applicator vocabulary meta-schema"
    | "validation" => "Validation vocabulary meta-schema"
    | "meta-data" => "Meta-data vocabulary meta-schema"
    | "format" => "Format vocabulary meta-schema"
    | "format-annotation" => "Format vocabulary meta-schema for annotation results"
    | _ => "Content vocabulary meta-schema")

def vocabulary (self : SelfReference) (name : String) (keywords : Fields) : Json :=
  .object
    ([("$schema", .string self.draft.uri), ("$id", .string (vocabularyUri self.draft name)),
      vocabularyField self.draft [(name, true)], self.anchor,
      ("title", .string (vocabularyTitle name))] ++ keywords)

def schemaType : String × Json := ("type", .array [.string "object", .string "boolean"])

def local_ (name : String) : Json := ref ("#/$defs/" ++ name)

def applicators (self : SelfReference) : Fields :=
  let schema := self.schema
  let patterns := Json.object [("type", .string "object"), ("additionalProperties", schema),
    ("propertyNames", .object [("format", .string "regex")]), ("default", .object [])]
  [("contains", schema), ("additionalProperties", schema)] ++
  (match self with
    | .recursive => [("unevaluatedProperties", schema)]
    | .dynamic => []) ++
  [("properties", mapOf schema),
    ("patternProperties", patterns),
    ("dependentSchemas", match self with
      | .recursive => .object [("type", .string "object"), ("additionalProperties", schema)]
      | .dynamic => mapOf schema),
    ("propertyNames", schema),
    ("if", schema),
    ("then", schema),
    ("else", schema),
    ("allOf", local_ "schemaArray"),
    ("anyOf", local_ "schemaArray"),
    ("oneOf", local_ "schemaArray"),
    ("not", schema)]

def limits : Fields :=
  [("multipleOf", .object [("type", .string "number"), ("exclusiveMinimum", .ofNat 0)]),
    ("maximum", typed "number"),
    ("exclusiveMaximum", typed "number"),
    ("minimum", typed "number"),
    ("exclusiveMinimum", typed "number"),
    ("maxLength", local_ "nonNegativeInteger"),
    ("minLength", local_ "nonNegativeIntegerDefault0"),
    ("pattern", formatted "regex"),
    ("maxItems", local_ "nonNegativeInteger"),
    ("minItems", local_ "nonNegativeIntegerDefault0"),
    ("uniqueItems", typedOr "boolean" (.bool false)),
    ("maxContains", local_ "nonNegativeInteger"),
    ("minContains",
      .object [("$ref", .string "#/$defs/nonNegativeInteger"), ("default", .ofNat 1)]),
    ("maxProperties", local_ "nonNegativeInteger"),
    ("minProperties", local_ "nonNegativeIntegerDefault0"),
    ("required", local_ "stringArray"),
    ("dependentRequired", .object
      [("type", .string "object"), ("additionalProperties", local_ "stringArray")])]

def choices : Fields :=
  [("const", .bool true),
    ("enum", .object [("type", .string "array"), ("items", .bool true)]),
    ("type", typeKeyword (local_ "simpleTypes"))]

def validationDefinitions : String × Json :=
  ("$defs", .object
    [("nonNegativeInteger", naturals),
      ("nonNegativeIntegerDefault0", .object
        [("$ref", .string "#/$defs/nonNegativeInteger"), ("default", .ofNat 0)]),
      ("simpleTypes", simpleTypes),
      ("stringArray", .object [("type", .string "array"), ("items", typed "string"),
        ("uniqueItems", .bool true), ("default", .array [])])])

def metaDataProperties : Fields :=
  [("title", typed "string"),
    ("description", typed "string"),
    ("default", .bool true),
    ("deprecated", typedOr "boolean" (.bool false)),
    ("readOnly", typedOr "boolean" (.bool false)),
    ("writeOnly", typedOr "boolean" (.bool false)),
    ("examples", .object [("type", .string "array"), ("items", .bool true)])]

def arrayDefinition (self : SelfReference) : String × Json :=
  ("$defs", .object [("schemaArray", schemaArray self.schema)])

def vocabularyMap : Json :=
  .object [("type", .string "object"), ("propertyNames", formatted "uri"),
    ("additionalProperties", typed "boolean")]

/-- The vocabularies of draft 2019-09, in the order in which a schema is checked against them. -/
def vocabularies201909 : List (String × Fields) :=
  let schema := recursiveRef
  [("core", [schemaType, ("properties", .object
      [("$id", .object [("type", .string "string"), ("format", .string "uri-reference"),
          ("$comment", .string "Non-empty fragments not allowed."),
          ("pattern", .string "^[^#]*#?$")]),
        ("$schema", formatted "uri"),
        ("$anchor", matching "^[A-Za-z][-A-Za-z0-9.:_]*$"),
        ("$ref", formatted "uri-reference"),
        ("$recursiveRef", formatted "uri-reference"),
        ("$recursiveAnchor", typedOr "boolean" (.bool false)),
        ("$vocabulary", vocabularyMap),
        ("$comment", typed "string"),
        ("$defs", mapOf schema)])]),
    ("applicator", [("properties", .object
      ([("additionalItems", schema),
        ("unevaluatedItems", schema),
        ("items", anyOf [schema, local_ "schemaArray"] [])] ++
        applicators .recursive)), arrayDefinition .recursive]),
    ("validation",
      [schemaType, ("properties", .object (limits ++ choices)), validationDefinitions]),
    ("meta-data", [schemaType, ("properties", .object metaDataProperties)]),
    ("format", [schemaType, ("properties", .object [("format", typed "string")])]),
    ("content", [schemaType, ("properties", .object
      [("contentMediaType", typed "string"), ("contentEncoding", typed "string"),
        ("contentSchema", schema)])])]

def vocabularies202012 : List (String × Fields) :=
  let schema := dynamicRef "#meta"
  [("core", [schemaType, ("properties", .object
      [("$id", .object [("$ref", .string "#/$defs/uriReferenceString"),
          ("$comment", .string "Non-empty fragments not allowed."),
          ("pattern", .string "^[^#]*#?$")]),
        ("$schema", local_ "uriString"),
        ("$ref", local_ "uriReferenceString"),
        ("$anchor", local_ "anchorString"),
        ("$dynamicRef", local_ "uriReferenceString"),
        ("$dynamicAnchor", local_ "anchorString"),
        ("$vocabulary", .object [("type", .string "object"), ("propertyNames", local_ "uriString"),
          ("additionalProperties", typed "boolean")]),
        ("$comment", typed "string"),
        ("$defs", .object [("type", .string "object"), ("additionalProperties", schema)])]),
      ("$defs", .object
        [("anchorString", matching "^[A-Za-z_][-A-Za-z0-9._]*$"),
          ("uriString", formatted "uri"),
          ("uriReferenceString", formatted "uri-reference")])]),
    ("applicator", [schemaType, ("properties", .object
      ([("prefixItems", local_ "schemaArray"),
        ("items", schema)] ++
        applicators .dynamic)), arrayDefinition .dynamic]),
    ("unevaluated", [schemaType, ("properties", .object
      [("unevaluatedItems", schema), ("unevaluatedProperties", schema)])]),
    ("validation",
      [schemaType, ("properties", .object (choices.drop 2 ++ choices.take 2 ++ limits)),
      validationDefinitions]),
    ("meta-data", [schemaType, ("properties", .object metaDataProperties)]),
    ("format-annotation", [schemaType, ("properties", .object [("format", typed "string")])]),
    ("content", [schemaType, ("properties", .object
      [("contentEncoding", typed "string"), ("contentMediaType", typed "string"),
        ("contentSchema", schema)])])]

def SelfReference.vocabularies : SelfReference → List (String × Fields)
  | recursive => vocabularies201909
  | dynamic => vocabularies202012

def former (remark : String) (keywords : Fields) : Json :=
  .object (("$comment", .string remark) :: keywords)

/-- What the older keywords that a draft still knows have to look like. -/
def formerKeywords (self : SelfReference) : Fields :=
  let objects (values : Json) : Fields :=
    [("type", .string "object"), ("additionalProperties", values)]
  let requirements := anyOf [self.schema, ref "meta/validation#/$defs/stringArray"] []
  let deprecated : Fields := [("deprecated", .bool true)]
  let byDefault : Fields := [("default", .object [])]
  match self with
  | .recursive =>
    [("definitions", former
        ("While no longer an official keyword as it is replaced by $defs, this keyword is " ++
          "retained in the meta-schema to prevent incompatible extensions as it remains in " ++
          "common use.")
        (objects self.schema ++ byDefault)),
      ("dependencies", former
        ("\"dependencies\" is no longer a keyword, but schema authors should avoid redefining " ++
          "it to facilitate a smooth transition from dependentSchemas and dependentRequired")
        (objects requirements))]
  | .dynamic =>
    [("definitions", former "\"definitions\" has been replaced by \"$defs\"."
        (objects self.schema ++ deprecated ++ byDefault)),
      ("dependencies", former
        ("\"dependencies\" has been split and replaced by \"dependentSchemas\" and " ++
          "\"dependentRequired\" in order to serve their differing semantics.")
        (objects requirements ++ deprecated ++ byDefault)),
      ("$recursiveAnchor", former "\"$recursiveAnchor\" has been replaced by \"$dynamicAnchor\"."
        (("$ref", .string "meta/core#/$defs/anchorString") :: deprecated)),
      ("$recursiveRef", former "\"$recursiveRef\" has been replaced by \"$dynamicRef\"."
        (("$ref", .string "meta/core#/$defs/uriReferenceString") :: deprecated))]

def formerRemark : SelfReference → Fields
  | .recursive => []
  | .dynamic =>
    [("$comment", .string
      ("This meta-schema also defines keywords that have appeared in previous drafts in order " ++
        "to prevent incompatible extensions as they remain in common use."))]

/-- The meta-schema of a draft: all of its vocabularies, then the older keywords.  Formats need not
be understood where they have a vocabulary of their own. -/
def whole (self : SelfReference) : Json :=
  let names := self.vocabularies.map Prod.fst
  .object
    ([("$schema", .string self.draft.uri),
      ("$id", .string self.draft.uri),
      vocabularyField self.draft (names.map fun name => (name, name != "format")),
      self.anchor,
      ("title", .string "Core and Validation specifications meta-schema"),
      ("allOf", .array (names.map fun name => ref ("meta/" ++ name))),
      schemaType] ++ formerRemark self ++
      [("properties", .object (formerKeywords self))])

def documents (self : SelfReference) : List (String × Json) :=
  (self.draft.uri, whole self) ::
    self.vocabularies.map fun (name, keywords) =>
      (vocabularyUri self.draft name, vocabulary self name keywords)

end ChannelGateway.Schema.Metaschema

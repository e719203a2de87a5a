import ChannelGateway.Schema.Mismatch
import ChannelGateway.Uri.Reference
/-!
# Refused schemas

The causes for which a schema is refused, and their texts.
-/

namespace ChannelGateway.Schema

inductive SchemaError where
  | unknownDraft (uri : String)
  /-- The schema fails its meta-schema, or a keyword has a value of the wrong kind. -/
  | malformed (mismatch : Mismatch)
  /-- A type has no known name. -/
  | unknownType
  /-- A reference cannot be read relative to a base. -/
  | unresolvable (reference base : String) (obstacle : UriObstacle)
  /-- The escapes of a pointer do not spell UTF-8. -/
  | badEscapes (pointer : String)
  /-- A token that selects an element of an array is no number. -/
  | badIndex (token pointer : String)
  | missingPointer (pointer : String)
  | badAnchor (anchor : String)
  | missingAnchor (anchor : String)
  /-- A resource that is not at hand cannot be fetched. -/
  | unreachable (uri : String)
  /-- A resource is not at hand when a reference to it is followed. -/
  | notAtHand (uri : String)

def unreachableReason (uri : String) : String :=
  match (UriReference.ofText uri.toList).scheme with
  | some ['h', 't', 't', 'p'] | some ['h', 't', 't', 'p', 's'] =>
    "error sending request for url (" ++ uri ++ ")"
  | some ['f', 'i', 'l', 'e'] => "No such file or directory (os error 2)"
  | scheme => "Unknown scheme " ++ String.ofList (scheme.getD [])

def missingResource (uri reason : String) : String :=
  "Resource '" ++ uri ++ "' is not present in a registry and retrieving it failed: " ++ reason

def unresolvedReference (reference base reason : String) : String :=
  "Failed to resolve '" ++ reference ++ "' against '" ++ base ++ "': " ++ reason

namespace SchemaError

def message : SchemaError → String
  | unknownDraft uri => "Unknown specification: " ++ uri
  | malformed mismatch => mismatch.message
  | unknownType => "Unexpected type"
  | unresolvable reference _ (.malformed fault) =>
    "Invalid URI reference '" ++ reference ++ "': " ++ fault.message
  | unresolvable reference base .fragment =>
    unresolvedReference reference base "base URI/IRI with fragment"
  | unresolvable reference base .opaquePath =>
    unresolvedReference reference base
      ("relative reference must be empty or start with '#' when resolved against authority-less " ++
        "base URI/IRI with rootless path")
  | badEscapes pointer =>
    "Invalid percent encoding in pointer '" ++ pointer ++
      "': the decoded bytes do not represent valid UTF-8"
  | badIndex token pointer =>
    "Failed to parse array index '" ++ token ++ "' in pointer '" ++ pointer ++ "'"
  | missingPointer pointer => "Pointer '" ++ pointer ++ "' does not exist"
  | badAnchor anchor => "Anchor '" ++ anchor ++ "' is invalid"
  | missingAnchor anchor => "Anchor '" ++ anchor ++ "' does not exist"
  | unreachable uri => missingResource uri (unreachableReason uri)
  | notAtHand uri =>
    missingResource uri
      "Retrieving external resources is not supported once the registry is populated"

def misfit (value : Json) (cause : MismatchCause) : SchemaError := malformed ⟨.root, value, cause⟩

def wrongType (value : Json) (types : List ValueType) : SchemaError :=
  misfit value (.wrongType types)

def notASchema (schema : Json) : SchemaError := wrongType schema [.boolean, .object]

end SchemaError

end ChannelGateway.Schema

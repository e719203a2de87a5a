import ChannelGateway.Document.Reference
/-!
# What can be wrong with a document

Structural problems are collected as issues, each with the place where it was found.  Every other
error ends the reading at once.
-/

namespace ChannelGateway

inductive IssueCause where
  | unknownRootProperty (key : String)
  | missingInfo
  | missingTitle
  | missingVersion
  | missingChannels
  | notAnObject
  | notAnArray
  | notAString
  | circularReference (reference : String)
  | channelNotAnObject
  | parameterNotAnObject
  | undeclaredParameter (name : String)
  | unusedParameter (name : String)
  | operationNotAnObject
  | tagWithoutName
  | alternativeMessages
  | messageNotAnObject
  | repeatedOperationId (id : String) (first : String)
deriving DecidableEq

def IssueCause.message : IssueCause → String
  | unknownRootProperty key => s!"unknown root property '{key}'"
  | missingInfo => "missing required 'info' object"
  | missingTitle => "missing required 'title'"
  | missingVersion => "missing required 'version'"
  | missingChannels => "missing required 'channels' object"
  | notAnObject => "must be an object"
  | notAnArray => "must be an array"
  | notAString => "must be a string"
  | circularReference reference => s!"circular $ref '{reference}'"
  | channelNotAnObject => "channel must be an object"
  | parameterNotAnObject => "parameter must be an object"
  | undeclaredParameter name => s!"channel parameter '{name}' is not declared in 'parameters'"
  | unusedParameter name => s!"parameter '{name}' does not appear in the channel address"
  | operationNotAnObject => "operation must be an object"
  | tagWithoutName => "tag must be an object with a 'name'"
  | alternativeMessages =>
    "'oneOf' messages are not supported, an operation carries exactly one message"
  | messageNotAnObject => "message must be an object"
  | repeatedOperationId id first =>
    s!"operationId '{id}' is not unique (first declared at {first})"

abbrev Location := List String

def Location.text (location : Location) : String :=
  match location with
  | [] => "/"
  | tokens => Pointer.text tokens

structure Issue where
  location : Location
  cause : IssueCause
deriving DecidableEq

def Issue.display (i : Issue) : String := i.location.text ++ ": " ++ i.cause.message

inductive FileError where
  | notFound
  | notADirectory
  | isADirectory
  | notUtf8
deriving DecidableEq, Repr

def FileError.message : FileError → String
  | notFound => "No such file or directory (os error 2)"
  | notADirectory => "Not a directory (os error 20)"
  | isADirectory => "Is a directory (os error 21)"
  | notUtf8 => "stream did not contain valid UTF-8"

inductive FormatError where
  | unsupportedVersion (version : String)
  | versionNotAString
  | openApi
  | missingVersion
deriving DecidableEq

def FormatError.message : FormatError → String
  | unsupportedVersion version =>
    s!"unsupported AsyncAPI version: {version} (only 2.x supported)"
  | versionNotAString => "'asyncapi' must be a version string"
  | openApi => "OpenAPI documents are not supported"
  | missingVersion => "missing 'asyncapi' field"

inductive DocumentError where
  | file (error : FileError)
  | format (error : FormatError)
  /-- The text is no YAML, or holds a value that JSON cannot express. -/
  | malformedText
  | rootNotAnObject
  | unresolvedReference (reference : String)
  | invalid (issues : List Issue)
deriving DecidableEq

namespace DocumentError

def code : DocumentError → String
  | file _ => "E1000"
  | format _ => "E1001"
  | malformedText => "E1002"
  | rootNotAnObject => "E1002"
  | unresolvedReference _ => "E1003"
  | invalid _ => "E1004"

def message : DocumentError → String
  | file error => "I/O error: " ++ error.message
  | format error => "not a valid AsyncAPI 2.x document: " ++ error.message
  | malformedText => "parse error: malformed YAML"
  | rootNotAnObject => "parse error: spec root must be an object"
  | unresolvedReference reference => "unresolved $ref: " ++ reference
  | invalid _ => "There were errors validating the AsyncAPI document."

def issues : DocumentError → List Issue
  | invalid issues => issues
  | _ => []

end DocumentError

end ChannelGateway

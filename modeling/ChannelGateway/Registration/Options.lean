import ChannelGateway.Document.Source
import ChannelGateway.Unicode.Classes
import ChannelGateway.Yaml.Record
/-!
# Registration options

Options are read from a YAML record whose fields are all optional.
-/

namespace ChannelGateway

structure RegistrationOptions where
  /-- Only operations with this tag are registered, if there is one. -/
  tag : Option String
  /-- The place relative to which controllers are referred to. -/
  controllers : String
  /-- Whether stubs stand in for missing handlers. -/
  stubMiddleware : Bool
  /-- Whether routes get handlers at all. -/
  requireController : Bool
deriving DecidableEq, Repr

inductive OptionsError where
  | unreadable (path : String) (error : FileError)
  | malformed (path : String)
deriving DecidableEq, Repr

def OptionsError.message : OptionsError → String
  | unreadable path error => "failed to read " ++ path ++ ": " ++ error.message
  | malformed path => "failed to parse " ++ path

namespace RegistrationOptions

def default : RegistrationOptions := ⟨none, "", false, true⟩

def fileName : String := "asyncgate.yaml"

def isBlank (text : String) : Bool := text.toList.all Unicode.isWhiteSpace

def ofYaml? (d : Yaml.YamlDocument) : Option RegistrationOptions := do
  let fields ← d.record? ["tag", "controllers", "stubMiddleware", "requireController"]
  let read {α : Type} (key : String) (reader : Yaml.Content → Option α) (value : α) : Option α :=
    (fields.lookup key).elim (some value) reader
  return {
    tag := ← read "tag" d.optionalText? none
    controllers := ← read "controllers" d.text? ""
    stubMiddleware := ← read "stubMiddleware" d.flag? false
    requireController := ← read "requireController" d.flag? true }

def ofText (text path : String) : Except OptionsError RegistrationOptions :=
  if isBlank text then .ok default
  else match (Yaml.YamlDocument.read? text).bind ofYaml? with
    | some options => .ok options
    | none => .error (.malformed path)

def ofFile (path : String) (content : Except FileError (List UInt8)) :
    Except OptionsError RegistrationOptions :=
  match content.bind readUtf8 with
  | .ok text => ofText text path
  | .error e => .error (.unreadable path e)

end RegistrationOptions

end ChannelGateway

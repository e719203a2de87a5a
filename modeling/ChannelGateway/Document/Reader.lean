import ChannelGateway.Document.Address
import ChannelGateway.Document.SchemaIds
import ChannelGateway.Document.Checked
import ChannelGateway.Document.Model
import ChannelGateway.Yaml.ToJson
/-!
# Reading AsyncAPI documents

A JSON value is read into a document in two passes.  The first resolves the references of every
channel and checks its structure; the second numbers the message schemas.
-/

namespace ChannelGateway

def Fields.string? (fields : Fields) (key : String) : Option String :=
  (fields.lookup key).bind Json.string?

namespace Document

/-- The properties that the root of a document may have, extensions apart. -/
def rootKeys : List String :=
  ["asyncapi", "id", "info", "servers", "defaultContentType", "channels", "components", "tags",
    "externalDocs"]

def isGatewayExtension (key : String) : Bool := "x-asyncgate-".toList.isPrefixOf key.toList

def controllerKey : String := "x-asyncgate-controller"

def extensionsOf (fields : Fields) : Fields :=
  Fields.sorted (fields.filter fun field => isGatewayExtension field.1)

/-- The version of the specification, which has to be of the second generation. -/
def readVersion (root : Fields) : Except FormatError String :=
  match root.lookup "asyncapi" with
  | some (.string version) =>
    if "2.".toList.isPrefixOf version.toList then .ok version
    else .error (.unsupportedVersion version)
  | some _ => .error .versionNotAString
  | none =>
    if Fields.contains root "openapi" || Fields.contains root "swagger" then .error .openApi
    else .error .missingVersion

def checkRootKeys (root : Fields) : Checked Unit := do
  let _ ← Checked.forList (fun (field : String × Json) =>
    if rootKeys.contains field.1 || "x-".toList.isPrefixOf field.1.toList then pure ()
    else Checked.wrong [] (.unknownRootProperty field.1) ()) root
  pure ()

def readRequired (fields : Fields) (key : String) (location : Location) (cause : IssueCause) :
    Checked String :=
  match fields.string? key with
  | some s => pure s
  | none => Checked.wrong location cause ""

def readInfo (root : Fields) : Checked (String × String) :=
  match (root.lookup "info").bind Json.fields? with
  | none => Checked.wrong [] .missingInfo ("", "")
  | some info => do
    let title ← readRequired info "title" ["info"] .missingTitle
    let version ← readRequired info "version" ["info"] .missingVersion
    pure (title, version)

def readParameters (location : Location) (channel : Fields) : Checked (List Parameter) :=
  match channel.lookup "parameters" with
  | none => pure []
  | some (.object fields) => do
    let read ← Checked.forList (fun (field : String × Json) =>
      match field.2 with
      | .object parameter => pure (some
          { name := field.1
            description := Fields.string? parameter "description"
            schema := (parameter.lookup "schema").getD (.object [])
            location := Fields.string? parameter "location" })
      | _ => Checked.wrong (location ++ ["parameters", field.1]) .parameterNotAnObject none) fields
    pure (read.filterMap id)
  | some _ => Checked.wrong (location ++ ["parameters"]) .notAnObject []

/-- Notes placeholders of the address without a parameter, and parameters without a placeholder. -/
def checkAddress (location : Location) (name : String) (parameters : List Parameter) :
    Checked Unit := do
  let used := Address.parameterNames name
  let _ ← Checked.forList (fun (placeholder : String) =>
    if parameters.any (·.name = placeholder) then pure ()
    else Checked.wrong location (.undeclaredParameter placeholder) ()) used
  let _ ← Checked.forList (fun (parameter : Parameter) =>
    if used.contains parameter.name then pure ()
    else Checked.wrong (location ++ ["parameters", parameter.name])
      (.unusedParameter parameter.name) ()) parameters
  pure ()

def readTags (location : Location) (operation : Fields) : Checked (List String) :=
  match operation.lookup "tags" with
  | none => pure []
  | some (.array tags) => do
    let names ← Checked.forList (fun (tag : Json) =>
      match (tag.get? "name").bind Json.string? with
      | some name => pure (some name)
      | none => Checked.wrong (location ++ ["tags"]) .tagWithoutName none) tags
    pure (names.filterMap id)
  | some _ => Checked.wrong (location ++ ["tags"]) .notAnArray []

def readController (location : Location) (operation : Fields) : Checked (Option String) :=
  match operation.lookup controllerKey with
  | none => pure none
  | some (.string controller) => pure (some controller)
  | some _ => Checked.wrong (location ++ [controllerKey]) .notAString none

def emptyMessage : Message := ⟨none, none, .object [], .object [], none⟩

/-- The message spelled by an object; its schemas have no identifiers yet. -/
def messageOf (fields : Fields) : Message :=
  let payload := (fields.lookup "payload").getD (.object [])
  { name := fields.string? "name"
    contentType := fields.string? "contentType"
    payload := payload
    originalPayload := payload
    headers := fields.lookup "headers" }

/-- The message of an operation.  An operation carries one message, not a choice of several. -/
def readMessage (location : Location) (operation : Fields) : Checked Message :=
  match operation.lookup "message" with
  | none => pure emptyMessage
  | some (.object message) =>
    if Fields.contains message "oneOf" then
      Checked.wrong (location ++ ["message"]) .alternativeMessages emptyMessage
    else pure (messageOf message)
  | some _ => Checked.wrong (location ++ ["message"]) .messageNotAnObject emptyMessage

def readOperation (location : Location) (value : Option Json) : Checked (Option Operation) :=
  match value with
  | none => pure none
  | some (.object operation) => do
    let tags ← readTags location operation
    let controller ← readController location operation
    let message ← readMessage location operation
    pure (some
      { operationId := Fields.string? operation "operationId"
        summary := Fields.string? operation "summary"
        tags := tags
        controller := controller
        message := message
        extensions := extensionsOf operation })
  | some _ => Checked.wrong location .operationNotAnObject none

def channelLocation (name : String) : Location := ["channels", name]

def readChannel (name : String) (resolved : Json) : Checked (Option Channel) :=
  let location := channelLocation name
  match resolved with
  | .object channel => do
    let parameters ← readParameters location channel
    checkAddress location name parameters
    let publish ← readOperation (location ++ ["publish"]) (channel.lookup "publish")
    let subscribe ← readOperation (location ++ ["subscribe"]) (channel.lookup "subscribe")
    pure (some
      { name := name
        description := Fields.string? channel "description"
        parameters := parameters
        publish := publish
        subscribe := subscribe })
  | _ => Checked.wrong location .channelNotAnObject none

/-- The channels of a document, in order.  The first reference that points nowhere ends the reading;
a channel with a reference that leads back to itself is left out. -/
def readChannels (root : Json) :
    List (String × Json) → Except DocumentError (Checked (List Channel))
  | [] => .ok (pure [])
  | (name, value) :: rest =>
    let checked : Except DocumentError (Checked (Option Channel)) :=
      match resolveReferences root value with
      | .ok resolved => .ok (readChannel name resolved)
      | .error (.unresolved r) => .error (.unresolvedReference r)
      | .error (.circular r) =>
        .ok (Checked.wrong (channelLocation name) (.circularReference r) none)
    match checked with
    | .error e => .error e
    | .ok channel =>
      match readChannels root rest with
      | .error e => .error e
      | .ok channels => .ok (do
        let first ← channel
        let others ← channels
        pure (first.toList ++ others))

def operationIds (channels : List Channel) : List (String × Location) :=
  channels.flatMap fun channel =>
    [("publish", channel.publish), ("subscribe", channel.subscribe)].filterMap
    fun (kind, operation) =>
      (operation.bind (·.operationId)).map fun id => (id, channelLocation channel.name ++ [kind])

def checkOperationIds (seen : List (String × Location)) :
    List (String × Location) → Checked Unit
  | [] => pure ()
  | (id, location) :: rest =>
    match seen.lookup id with
    | some first => do
      Checked.wrong location (.repeatedOperationId id first.text) ()
      checkOperationIds seen rest
    | none => checkOperationIds (seen ++ [(id, location)]) rest

def annotateMessage (message : Message) (n : Nat) : Message × Nat :=
  let (payload, n) := SchemaIds.annotate message.originalPayload n
  match message.headers with
  | none => ({ message with payload := payload }, n)
  | some headers =>
    let (headers, n) := SchemaIds.annotate headers n
    ({ message with payload := payload, headers := some headers }, n)

def annotateOperation (operation : Option Operation) (n : Nat) : Option Operation × Nat :=
  match operation with
  | none => (none, n)
  | some operation =>
    let (message, n) := annotateMessage operation.message n
    (some { operation with message := message }, n)

/-- Gives the schemas of the channels their identifiers, publish before subscribe. -/
def annotateChannels : List Channel → Nat → List Channel × Nat
  | [], n => ([], n)
  | channel :: rest, n =>
    let (publish, n) := annotateOperation channel.publish n
    let (subscribe, n) := annotateOperation channel.subscribe n
    let (rest, n) := annotateChannels rest n
    ({ channel with publish := publish, subscribe := subscribe } :: rest, n)

def readChannelsOf (root : Json) (fields : Fields) :
    Except DocumentError (Checked (List Channel)) :=
  match fields.lookup "channels" with
  | some (.object channels) => readChannels root channels
  | some _ => .ok (Checked.wrong ["channels"] .notAnObject [])
  | none => .ok (Checked.wrong [] .missingChannels [])

def readObject (root : Json) (fields : Fields) (version : String) :
    Except DocumentError (Checked Document) :=
  match readChannelsOf root fields with
  | .error e => .error e
  | .ok channels => .ok (do
    checkRootKeys fields
    let (title, apiVersion) ← readInfo fields
    let channels ← channels
    checkOperationIds [] (operationIds channels)
    pure
      { filename := none
        version := version
        title := title
        apiVersion := apiVersion
        defaultContentType := fields.string? "defaultContentType"
        channels := (annotateChannels channels 0).1
        extensions := extensionsOf fields })

/-- Reads a document from a JSON value. -/
def ofJson (root : Json) : Except DocumentError Document :=
  match root with
  | .object fields =>
    match readVersion fields with
    | .error e => .error (.format e)
    | .ok version =>
      match readObject root fields version with
      | .error e => .error e
      | .ok checked =>
        if checked.issues.isEmpty then .ok checked.value else .error (.invalid checked.issues)
  | _ => .error .rootNotAnObject

/-- Reads a document from YAML text, of which JSON text is a special case. -/
def ofText (text : String) : Except DocumentError Document :=
  match Yaml.readJson? text with
  | none => .error .malformedText
  | some root => ofJson root

end Document

end ChannelGateway

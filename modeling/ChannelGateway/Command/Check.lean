import ChannelGateway.Command.Files
import ChannelGateway.Document.Source
import ChannelGateway.Json.Printer
/-!
# Checking documents

What is wrong with documents, and what about them may be a mistake.
-/

namespace ChannelGateway

structure Finding where
  code : String
  message : String
  location : Option String
deriving DecidableEq, Repr

def Finding.toJson (f : Finding) : Json :=
  .object
    ([("code", .string f.code), ("message", .string f.message)] ++
      f.location.elim [] fun location => [("location", .string location)])

def Finding.line (f : Finding) (ending : String) : String :=
  let place := f.location.elim "" fun location => " [" ++ location ++ "]"
  "  " ++ f.code ++ place ++ ": " ++ f.message ++ ending ++ "\n"

structure FileCheck where
  file : String
  errors : List Finding
  warnings : List Finding
deriving DecidableEq, Repr

namespace FileCheck

def isValid (c : FileCheck) : Bool := c.errors.isEmpty

def knownExtensions : List String := ["x-asyncgate-controller"]

def extensionWarnings (extensions : Fields) (location : String) : List Finding :=
  ((Fields.keys extensions).filter (!knownExtensions.contains ·)).map fun key =>
    ⟨"E1015", "unknown extension: " ++ key, some location⟩

def unboundWarning (channel : Channel) (location : String) : Finding :=
  ⟨"E1021",
    s!"publish operation on '{channel.name}' has no operationId and cannot be bound to a handler",
    some location⟩

def channelWarnings (file : String) (channel : Channel) : List Finding :=
  match channel.publish with
  | none => []
  | some operation =>
    let location := file ++ ":" ++ channel.name ++ " publish"
    (if operation.operationId.isNone then [unboundWarning channel location] else []) ++
      extensionWarnings operation.extensions location

def documentWarnings (file : String) (document : Document) : List Finding :=
  extensionWarnings document.extensions file ++ document.channels.flatMap (channelWarnings file)

def documentErrors (file : String) (error : DocumentError) : List Finding :=
  match error with
  | .invalid issues =>
    issues.map fun issue =>
      ⟨error.code, issue.cause.message, some (file ++ ":" ++ issue.location.text)⟩
  | error => [⟨error.code, error.message, some file⟩]

def ofFile (read : ReadFile) (file : String) : FileCheck :=
  if !read.finds file then ⟨file, [⟨"E1000", "file not found: " ++ file, none⟩], []⟩
  else match Document.ofFile file (read file) with
    | .ok document => ⟨file, [], documentWarnings file document⟩
    | .error e => ⟨file, documentErrors file e, []⟩

def toJson (c : FileCheck) : Json :=
  .object
    [("file", .string c.file), ("valid", .bool c.isValid),
      ("errors", .array (c.errors.map Finding.toJson)),
      ("warnings", .array (c.warnings.map Finding.toJson))]

def lines (c : FileCheck) : String :=
  let head :=
    if !c.isValid then s!"✗ {c.file} has {c.errors.length} error(s)"
    else if c.warnings.isEmpty then s!"✓ {c.file} is valid"
    else s!"✓ {c.file} is valid (with {c.warnings.length} warning(s))"
  head ++ "\n" ++ String.join (c.errors.map (·.line "")) ++
    String.join (c.warnings.map (·.line " (warning)"))

def reportJson (checks : List FileCheck) : Json :=
  let valid := checks.countP isValid
  .object
    [("results", .array (checks.map toJson)),
      ("summary", .object
        [("total", .ofNat checks.length), ("valid", .ofNat valid),
          ("invalid", .ofNat (checks.length - valid))])]

def reportText (checks : List FileCheck) : String :=
  let valid := checks.countP isValid
  String.join (checks.map lines) ++
    s!"\nvalidated {checks.length} document(s): {valid} valid, {checks.length - valid} invalid\n"

end FileCheck

end ChannelGateway

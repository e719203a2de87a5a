import ChannelGateway.Pipeline.Stage
import ChannelGateway.Text.Segments
/-!
# Controllers

A controller is a module that exports handlers under the identifiers of operations.  The registry
knows controllers by their module keys: paths without empty and dot segments.
-/

namespace ChannelGateway

abbrev Directory (α : Type) := List (String × α)

def Directory.insert {α : Type} (name : String) (value : α) : Directory α → Directory α
  | [] => [(name, value)]
  | (other, old) :: rest =>
    if name = other then (name, value) :: rest
    else if name < other then (name, value) :: (other, old) :: rest
    else (other, old) :: Directory.insert name value rest

inductive Handler where
  | direct (stage : Stage)
  /-- Stages that run in order. -/
  | sequence (stages : List Stage)
  /-- Makes a handler when it is called. -/
  | factory (product : Handler)

def Handler.kind : Handler → String
  | direct _ => "Direct"
  | sequence stages => "Sequence(" ++ toString stages.length ++ ")"
  | factory _ => "Factory"

inductive Export where
  | handler (handler : Handler)
  /-- A value, which cannot handle anything. -/
  | value (value : Json)

def Export.kind : Export → String
  | handler h => h.kind
  | value _ => "Value"

abbrev Controller := Directory Export

abbrev ControllerRegistry := Directory Controller

def ModuleKey.segments (path : List Char) : List (List Char) :=
  (path.splitOn '/').filter fun segment => !segment.isEmpty && segment != ['.']

def ModuleKey.ofReference (base reference : String) : String :=
  String.ofList
    (Segments.join (ModuleKey.segments base.toList ++ ModuleKey.segments reference.toList))

def ControllerRegistry.register (registry : ControllerRegistry) (path : String)
    (controller : Controller) : ControllerRegistry :=
  Directory.insert (ModuleKey.ofReference "" path) controller registry

end ChannelGateway

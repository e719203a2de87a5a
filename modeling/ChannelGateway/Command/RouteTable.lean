import ChannelGateway.Registration.Report
/-!
# Route tables

Routes in columns.  A cell that is too long for its column shifts the rest of its line.
-/

namespace ChannelGateway.RouteTable

def padRight (width : Nat) (text : String) : String :=
  text ++ String.ofList (List.replicate (width - text.length) ' ')

def padLeft (width : Nat) (text : String) : String :=
  String.ofList (List.replicate (width - text.length) ' ') ++ text

def row (pattern operation stages handler : String) : String :=
  padRight 48 pattern ++ " " ++ padRight 24 operation ++ " " ++ padLeft 6 stages ++ "  " ++
    handler ++ "\n"

def table (r : Registration) : String :=
  row "PATTERN" "OPERATION" "STAGES" "HANDLER" ++
    String.join (r.routes.map fun route =>
      row route.path (route.operationId.getD "-") (toString route.stages) route.handler.name)

def summary (r : Registration) : String :=
  s!"{r.title} {r.version}: {r.routes.length} route(s), {r.stageCount} stage(s)\n"

end ChannelGateway.RouteTable

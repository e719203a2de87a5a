import ChannelGateway.Yaml.Record
/-!
# Telemetry configuration
-/

namespace ChannelGateway

inductive LogFormat where
  | json
  | pretty
deriving DecidableEq, Repr

namespace LogFormat

def name : LogFormat → String
  | json => "json"
  | pretty => "pretty"

def ofName? (name : String) : Option LogFormat := [json, pretty].find? (·.name = name)

def parse? (text : String) : Option LogFormat := ofName? text.toLower

end LogFormat

structure TelemetryConfig where
  serviceName : String
  logLevel : String
  logFormat : LogFormat
deriving DecidableEq, Repr

namespace TelemetryConfig

def default : TelemetryConfig := ⟨"asyncgate", "info", .json⟩

def ofYaml? (d : Yaml.YamlDocument) : Option TelemetryConfig := do
  let fields ← d.record? ["serviceName", "logLevel", "logFormat"]
  let read {α : Type} (key : String) (reader : Yaml.Content → Option α) (value : α) : Option α :=
    (fields.lookup key).elim (some value) reader
  return {
    serviceName := ← read "serviceName" d.text? default.serviceName
    logLevel := ← read "logLevel" d.text? default.logLevel
    logFormat := ← read "logFormat" (fun value => (d.choice? value).bind LogFormat.ofName?)
      default.logFormat }

def ofText? (text : String) : Option TelemetryConfig := (Yaml.YamlDocument.read? text).bind ofYaml?

end TelemetryConfig

end ChannelGateway

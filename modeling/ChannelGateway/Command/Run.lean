import ChannelGateway.Command.Arguments
import ChannelGateway.Command.Check
import ChannelGateway.Command.RouteTable
import ChannelGateway.Gateway.Server
import ChannelGateway.Telemetry.Config
import ChannelGateway.Uri.Address
/-!
# Commands

Carries out a command line, given what reading files gives.
-/

namespace ChannelGateway

structure CommandResult where
  exit : Nat
  stdout : String
  stderr : String
deriving DecidableEq, Repr

inductive CommandOutcome where
  /-- It is no command line that is understood. -/
  | usage
  | help
  | done (result : CommandResult)
  /-- A gateway is ready to serve at an address. -/
  | serve (gateway : Gateway) (address : String)

namespace Command

def version : String := "0.6.3"

def failed (message : String) : CommandResult := ⟨1, "", "error: " ++ message ++ "\n"⟩

def options (read : ReadFile) (given : RegistrationArguments) :
    Except OptionsError RegistrationOptions := do
  let file := RegistrationOptions.fileName
  let base ← match given.config with
    | some path => RegistrationOptions.ofFile path (read path)
    | none =>
      if read.finds file then RegistrationOptions.ofFile file (read file) else .ok .default
  return {
    tag := given.tag.or base.tag
    controllers := given.controllers.getD base.controllers
    stubMiddleware := given.stub || base.stubMiddleware
    requireController := !given.validateOnly && base.requireController }

def compile (read : ReadFile) (spec : String) (given : RegistrationArguments) (dev : Bool) :
    Except RegistrationError (App × Registration) :=
  match options read given with
  | .error e => .error (.options e)
  | .ok options =>
    let result :=
      (RouteCompiler.mk options [] true).register (App.empty dev) (.file spec (read spec))
    result.outcome.map fun registration => (result.host, registration)

def registrationFailed (error : RegistrationError) : CommandResult :=
  let issues := match error with
    | .document e => e.issues
    | _ => []
  let base := failed (error.code ++ ": " ++ error.message)
  { base with
    stderr := base.stderr ++ String.join (issues.map fun issue => "  " ++ issue.display ++ "\n") }

def validate (read : ReadFile) (specs : List String) (format : String) : CommandResult :=
  let checks := specs.map (FileCheck.ofFile read)
  let exit := if checks.all FileCheck.isValid then 0 else 1
  if format = "json" then ⟨exit, (FileCheck.reportJson checks).pretty ++ "\n", ""⟩
  else ⟨exit, "", FileCheck.reportText checks⟩

def routes (read : ReadFile) (spec : String) (given : RegistrationArguments) (format : String) :
    CommandResult :=
  match compile read spec given false with
  | .error e => registrationFailed e
  | .ok (_, registration) =>
    if format = "json" then ⟨0, registration.toJson.pretty ++ "\n", ""⟩
    else ⟨0, RouteTable.table registration, RouteTable.summary registration⟩

/-- Whether a text is the number of a service on a machine: digits that spell a number
below 65536. -/
def isServiceNumber (text : List Char) : Bool :=
  !text.isEmpty && text.all Char.isDigit && Decimal.ofDigits text < Nat.pow 2 16

/-- Whether a text is an address to listen at: an IPv4 address, or an IPv6 address in brackets with
an optional scope, and after a colon the number of a service. -/
def isSocketAddress (text : String) : Bool :=
  match text.toList with
  | '[' :: rest =>
    let host := rest.takeWhile (· ≠ ']')
    let address := host.takeWhile (· ≠ '%')
    let scopeFits := match host.drop address.length with
      | [] => true
      | _ :: scope =>
        !scope.isEmpty && scope.all Char.isDigit && Decimal.ofDigits scope < Nat.pow 2 32
    match rest.drop host.length with
    | ']' :: ':' :: service => IpAddress.isV6 address && scopeFits && isServiceNumber service
    | _ => false
  | chars =>
    let host := chars.takeWhile (· ≠ ':')
    match chars.drop host.length with
    | ':' :: service => IpAddress.isV4 host && isServiceNumber service
    | _ => false

def serve (read : ReadFile) (spec : String) (given : RegistrationArguments) (listen : String)
    (dev : Bool) (logFormat : String) : CommandOutcome :=
  if (LogFormat.parse? logFormat).isNone then .done (failed ("unknown log format: " ++ logFormat))
  else if !isSocketAddress listen then .done (failed ("invalid listen address: " ++ listen))
  else match compile read spec given dev with
    | .error e => .done (registrationFailed e)
    | .ok (app, registration) => .serve ⟨app, registration⟩ listen

def run (read : ReadFile) : Invocation → CommandOutcome
  | .help => .help
  | .version => .done ⟨0, "asyncgate " ++ version ++ "\n", ""⟩
  | .validate specs format => .done (validate read specs format)
  | .routes spec given format => .done (routes read spec given format)
  | .serve spec given listen dev logFormat => serve read spec given listen dev logFormat

def runArguments (read : ReadFile) (arguments : List String) : CommandOutcome :=
  match CommandLine.read? arguments with
  | some invocation => run read invocation
  | none => .usage

end Command

end ChannelGateway

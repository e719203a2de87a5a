import ChannelGateway.Command.Run
/-!
# The command line

Reads the files that a command names, carries the command out, and prints what it leaves.
-/

namespace ChannelGateway

def Invocation.files : Invocation → List String
  | .help | .version => []
  | .validate specs _ => specs
  | .routes spec given _ => [spec, given.config.getD RegistrationOptions.fileName]
  | .serve spec given .. => [spec, given.config.getD RegistrationOptions.fileName]

def fileErrorOf : IO.Error → FileError
  | .inappropriateType _ code _ => if code = 20 then .notADirectory else .isADirectory
  | .illegalOperation .. => .isADirectory
  | _ => .notFound

def readFile (path : String) : IO (Except FileError (List UInt8)) := do
  match ← (IO.FS.readBinFile path).toBaseIO with
  | .ok bytes => return .ok bytes.toList
  | .error e => return .error (fileErrorOf e)

def readFiles (arguments : List String) : IO ReadFile := do
  let paths := ((CommandLine.read? arguments).map Invocation.files).getD []
  let contents ← paths.mapM fun path => return (path, ← readFile path)
  return fun path => (contents.lookup path).getD (.error .notFound)

def usageText : String :=
  "Usage: asyncgate <validate|routes|serve> --spec <SPEC> [OPTIONS]\n"

end ChannelGateway

open ChannelGateway in
def main (arguments : List String) : IO UInt32 := do
  let read ← readFiles arguments
  match Command.runArguments read arguments with
  | .usage =>
    IO.eprint usageText
    return 2
  | .help =>
    IO.print usageText
    return 0
  | .done result =>
    IO.print result.stdout
    IO.eprint result.stderr
    return UInt32.ofNat result.exit
  | .serve _ address =>
    IO.eprint ("error: failed to bind to " ++ address ++ ": listening is not supported\n")
    return 1

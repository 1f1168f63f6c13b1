import TypedDecl.CommandLine.Response

/-!
The program: arguments, a file and the environment in, output, log and exit code out.
-/

namespace TypedDecl.CommandLine

/-- A level by its name, in any case.  Directives for single targets are not read. -/
def thresholdOfName? (name : String) : Option Threshold :=
  match name.toLower with
  | "off" => some .off
  | "error" => some (.upTo .error)
  | "warn" => some (.upTo .warn)
  | "info" => some (.upTo .info)
  | "debug" => some (.upTo .debug)
  | "trace" => some (.upTo .trace)
  | _ => none

def Request.readContents (request : Request) : IO (Option ByteArray) :=
  match request with
  | .run options => try some <$> IO.FS.readBinFile options.file catch _ => pure none
  | _ => pure none

def respond (arguments : List String) : IO UInt32 := do
  let request := Request.ofArguments arguments
  let given := (← IO.getEnv "RUST_LOG").bind thresholdOfName?
  let response := request.response given (← request.readContents)
  IO.print response.output
  for line in response.diagnostics do
    IO.eprintln line
  return response.exitCode.toUInt32

end TypedDecl.CommandLine

def main (arguments : List String) : IO UInt32 := TypedDecl.CommandLine.respond arguments

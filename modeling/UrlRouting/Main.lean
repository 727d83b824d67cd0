import UrlRouting.CommandLine.Run
import UrlRouting.Log.Line

/-! The command line: reads the environment and the route file, and writes what the command comes
to. -/

namespace UrlRouting.Main

def fileError : IO.Error → FileError
  | .noFileOrDirectory _ _ _ => .notFound
  | .inappropriateType _ code _ => if code = 21 then .isADirectory else .notADirectory
  | e => .other (toString e)

def readFile (arguments : List String) : IO (Except FileError String) := do
  match CommandLine.Command.parse arguments with
  | .error _ => return .error .notFound
  | .ok c =>
    try
      let bytes ← IO.FS.readBinFile c.routeFile
      return decodeFile bytes.toList
    catch e => return .error (fileError e)

def variableNames : List String := ["RUST_LOG", "URL_MAPPER_LOG_LEVEL", "URL_MAPPER_LOG_FORMAT"]

def environment : IO (List (String × String)) := do
  let values ← variableNames.mapM fun name => return (← IO.getEnv name).map fun v => (name, v)
  return values.filterMap id

end UrlRouting.Main

def main (arguments : List String) : IO UInt32 := do
  let environment ← UrlRouting.Main.environment
  let lookup (name : String) : Option String := environment.lookup name
  let file ← UrlRouting.Main.readFile arguments
  let transcript := UrlRouting.CommandLine.transcript lookup (fun _ => file) arguments
  let format := (UrlRouting.Log.Settings.ofLookup lookup).format
  for event in transcript.events do
    IO.eprintln (event.line format)
  IO.print transcript.output
  IO.eprint (transcript.complaint.getD "")
  return transcript.exitCode.toUInt32

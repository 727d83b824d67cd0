import UrlRouting.Json.Write
import UrlRouting.Log.Settings

/-! Lines of the log. Neither the time of an event nor the time it took is written. -/

namespace UrlRouting.Log

def FieldValue.json? : FieldValue → Option (List Char)
  | .text s => some (Json.writeText s)
  | .number n => some (toString n).toList
  | .flag b => some (toString b).toList
  | .elapsed => none

def FieldValue.plain? : FieldValue → Option String
  | .text s => some s
  | .number n => some (toString n)
  | .flag b => some (toString b)
  | .elapsed => none

namespace Event

def jsonLine (e : Event) : String :=
  let fields := e.fields.filterMap fun f => f.2.json?.map fun v => (f.1, v)
  String.ofList <| Json.writeTable
    [("level", Json.writeText e.level.name),
      ("fields", Json.writeTable (("message", Json.writeText e.message) :: fields)),
      ("target", Json.writeText e.target)]

def prettyLine (e : Event) : String :=
  let level := String.ofList (List.replicate (5 - e.level.name.length) ' ') ++ e.level.name
  let fields := e.fields.filterMap fun f => f.2.plain?.map fun v => " " ++ f.1 ++ "=" ++ v
  level ++ " " ++ e.target ++ ": " ++ e.message ++ String.join fields

def line (format : LineFormat) (e : Event) : String :=
  match format with
  | .json => e.jsonLine
  | .pretty => e.prettyLine

end Event

end UrlRouting.Log

import UrlRouting.RouteFile.Shape
import UrlRouting.Unicode.Class
import UrlRouting.Yaml.Read
import UrlRouting.Toml.Read
import UrlRouting.Json.Read

/-! The text formats of route files. -/

namespace UrlRouting

inductive TextFormat where
  | yaml
  | toml
  | json
deriving DecidableEq, Repr, Inhabited

namespace TextFormat

def name : TextFormat → String
  | yaml => "YAML"
  | toml => "TOML"
  | json => "JSON"

/-- The format of files with an extension, in which case does not count. -/
def ofExtension? (extension : String) : Option TextFormat :=
  match Unicode.asciiLowerText extension with
  | "yaml" => some yaml
  | "yml" => some yaml
  | "toml" => some toml
  | "json" => some json
  | _ => none

def read? (f : TextFormat) (text : String) : Option Document :=
  match f with
  | yaml => Yaml.read? text
  | toml => Toml.read? text
  | json => Json.read? text

def recordForm : TextFormat → RecordForm
  | yaml => .named
  | toml => .positionalPrefix
  | json => .positional

end TextFormat

def RouteFile.ofText? (f : TextFormat) (text : String) : Option RouteFile :=
  (f.read? text).bind (RouteFile.ofDocument? f.recordForm)

def ParameterSet.ofText? (f : TextFormat) (text : String) : Option ParameterSet :=
  (f.read? text).bind ParameterSet.ofDocument?

end UrlRouting

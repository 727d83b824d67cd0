import UrlRouting.Log.Filter

/-! Settings of the log, taken from the environment. -/

namespace UrlRouting.Log

inductive LineFormat where
  | json
  | pretty
deriving DecidableEq, Repr, Inhabited

def trim (s : String) : String :=
  String.ofList ((s.toList.dropWhile Unicode.isBlank).reverse.dropWhile Unicode.isBlank).reverse

/-- Blanks at the ends and case do not count. -/
def normalized (s : String) : String := Unicode.asciiLowerText (trim s)

def LineFormat.ofName (s : String) : LineFormat := if normalized s = "json" then .json else .pretty

structure Settings where
  level : String
  format : LineFormat
deriving DecidableEq, Repr

namespace Settings

def standard : Settings := ⟨"warn", .pretty⟩

instance : Inhabited Settings := ⟨standard⟩

def ofLookup (lookup : String → Option String) : Settings :=
  let level := ((lookup "URL_MAPPER_LOG_LEVEL").map normalized).getD ""
  ⟨if level = "" then standard.level else level,
    ((lookup "URL_MAPPER_LOG_FORMAT").map LineFormat.ofName).getD standard.format⟩

/-- The threshold of the level, which for an unknown one is that of warnings. -/
def threshold (s : Settings) : Threshold :=
  match s.level with
  | "trace" => some .trace
  | "debug" => some .debug
  | "info" => some .info
  | "error" => some .error
  | _ => some .warn

def filter (s : Settings) (lookup : String → Option String) : Filter :=
  ((lookup "RUST_LOG").bind Filter.parse?).getD (Filter.ofThreshold s.threshold)

end Settings

end UrlRouting.Log

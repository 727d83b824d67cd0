import UrlRouting.CommandLine.Arguments
import UrlRouting.CommandLine.Help
import UrlRouting.Log.Journal
import UrlRouting.Log.Settings
import UrlRouting.RouteFile.Load

/-! Carrying out of commands: what they write, what they log and how they end. -/

namespace UrlRouting.CommandLine

inductive Outcome where
  | done
  /-- No route has the shape of the URL, or none accepts the parameters. -/
  | notFound
  /-- A route has the shape of the URL, but not its values. -/
  | invalid
deriving DecidableEq, Repr, Inhabited

def Outcome.exitCode : Outcome → Nat
  | done => 0
  | notFound => 1
  | invalid => 2

structure Completion where
  outcome : Outcome
  output : String
  complaint : Option String
deriving DecidableEq, Repr, Inhabited

namespace Completion

def success (output : String) : Completion := ⟨.done, output, none⟩

def failure (outcome : Outcome) (complaint : String) : Completion := ⟨outcome, "", some complaint⟩

end Completion

def Command.routeFile : Command → String
  | .recognize file _ => file
  | .generate file _ _ _ _ => file
  | .routes file => file

structure Logged (α : Type) where
  events : List Log.Event
  value : α

/-- Loads a route file. The events of its routes are logged even if one fails. -/
def loadLogged (files : FileReader) (path : String) : Logged (Except LoadError Namespace) :=
  match RouteFile.read files path with
  | .error e => ⟨[], .error e⟩
  | .ok file =>
    let application := file.applyToNew
    let events := Log.applied file application
    match application.result with
    | .error e => ⟨events, .error e⟩
    | .ok ns => ⟨events ++ [Log.loaded path ns], .ok ns⟩

def recognize (ns : Namespace) (url : String) : Logged Completion :=
  let answer := ns.recognize url
  ⟨Log.recognized ns url answer,
    match answer with
    | .matched _ _ params => .success (String.ofList (Json.writeSet params) ++ "\n")
    | .invalid route _ _ => .failure .invalid (Recognition.invalidMessage route url)
    | .unknown _ => .failure .notFound ("no route matches '" ++ url ++ "'")
    | .outside => .failure .notFound ("no route matches '" ++ url ++ "'")⟩

/-- Generates a URL. Of pairs with the same key the last counts, and an empty value is none. -/
def generate (ns : Namespace) (aliasName : Option String) (pairs : List (String × String))
    (suffix : Suffix) : Logged Completion :=
  let params : ParameterSet := NameMap.ofList (pairs.map fun p => (p.1, ParamValue.ofString p.2))
  let answer := match aliasName with
    | some name => ns.generateByAlias name params suffix
    | none => ns.generate params suffix
  ⟨Log.generationAsked aliasName params :: Log.generated ns aliasName params answer,
    match answer with
    | some g => .success (g.url ++ "\n")
    | none => .failure .notFound "no route can generate a URL for these parameters"⟩

def Command.perform (c : Command) (ns : Namespace) : Logged Completion :=
  match c with
  | .recognize _ url => CommandLine.recognize ns url
  | .generate _ aliasName params query fragment =>
    CommandLine.generate ns aliasName params ⟨query, fragment⟩
  | .routes _ => ⟨[], .success ns.listing⟩

def Command.run (c : Command) (files : FileReader) : Logged (Except LoadError Completion) :=
  let loading := loadLogged files c.routeFile
  match loading.value with
  | .error e => ⟨loading.events, .error e⟩
  | .ok ns =>
    let performance := c.perform ns
    ⟨loading.events ++ performance.events, .ok performance.value⟩

def Command.loadContext (c : Command) : String := "loading " ++ c.routeFile

structure Transcript where
  exitCode : Nat
  output : String
  complaint : Option String
  events : List Log.Event
deriving Inhabited

def refusalTranscript (r : Refusal) : Transcript :=
  match r with
  | .help none => ⟨r.exitCode, generalHelp, none, []⟩
  | .help (some c) => ⟨r.exitCode, commandHelp c, none, []⟩
  | .version => ⟨r.exitCode, versionLine, none, []⟩
  | .noCommand => ⟨r.exitCode, "", some generalHelp, []⟩
  | _ => ⟨r.exitCode, "", r.message?.map fun m => "error: " ++ m ++ "\n", []⟩

def loadFailureCode : Nat := 3

/-- Carries out a command line. `lookup` gives the variables of the environment. -/
def transcript (lookup : String → Option String) (files : FileReader) (arguments : List String) :
    Transcript :=
  match Command.parse arguments with
  | .error r => refusalTranscript r
  | .ok c =>
    let filter := (Log.Settings.ofLookup lookup).filter lookup
    let done := c.run files
    let events := done.events.filter filter.admits
    match done.value with
    | .error e =>
      ⟨loadFailureCode, "", some ("error: " ++ c.loadContext ++ ": " ++ e.chain ++ "\n"), events⟩
    | .ok completion =>
      ⟨completion.outcome.exitCode, completion.output, completion.complaint.map (· ++ "\n"), events⟩

end UrlRouting.CommandLine

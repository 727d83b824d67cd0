/-! Commands of the command line, and the reasons for which one is not carried out. -/

namespace UrlRouting.CommandLine

inductive CommandName where
  | recognize
  | generate
  | routes
deriving DecidableEq, Repr, Inhabited

def CommandName.ofWord? : String → Option CommandName
  | "recognize" => some .recognize
  | "generate" => some .generate
  | "routes" => some .routes
  | _ => none

def CommandName.word : CommandName → String
  | .recognize => "recognize"
  | .generate => "generate"
  | .routes => "routes"

inductive Command where
  | recognize (file url : String)
  | generate (file : String) (aliasName : Option String) (params query : List (String × String))
      (fragment : Option String)
  | routes (file : String)
deriving DecidableEq, Repr, Inhabited

inductive Setting where
  | routes
  | aliasName
  | query
  | fragment
deriving DecidableEq, Repr, Inhabited

namespace Setting

def word : Setting → String
  | routes => "routes"
  | aliasName => "alias"
  | query => "query"
  | fragment => "fragment"

def letter : Setting → Char
  | routes => 'r'
  | aliasName => 'a'
  | query => 'q'
  | fragment => 'f'

def label : Setting → String
  | routes => "--routes <ROUTES>"
  | aliasName => "--alias <ALIAS>"
  | query => "--query <QUERY>"
  | fragment => "--fragment <FRAGMENT>"

end Setting

def CommandName.settings : CommandName → List Setting
  | .recognize => [.routes]
  | .generate => [.routes, .aliasName, .query, .fragment]
  | .routes => [.routes]

def urlLabel : String := "<URL>"

def paramsLabel : String := "[PARAMS]..."

inductive PairFault where
  | missingKey
  | missingSign
deriving DecidableEq, Repr, Inhabited

/-- A pair is split at its first equals sign. Its key must not be empty. -/
def pair? (s : String) : Except PairFault (String × String) :=
  let key := s.toList.takeWhile (· != '=')
  match s.toList.dropWhile (· != '=') with
  | [] => .error .missingSign
  | _ :: value =>
    if key.isEmpty then .error .missingKey else .ok (String.ofList key, String.ofList value)

inductive Refusal where
  /-- Help was asked for, about a command or all of them. -/
  | help (about : Option CommandName)
  | version
  | noCommand
  | unknownCommand (word : String)
  | unknownArgument (word : String)
  | missingArguments (labels : List String)
  | missingValue (label : String)
  | repeated (label : String)
  | invalidPair (value label : String) (fault : PairFault)
  | needlessValue (value option : String)
deriving DecidableEq, Repr, Inhabited

namespace Refusal

def pairFaultMessage (value : String) : PairFault → String
  | .missingKey => "missing key in '" ++ value ++ "'"
  | .missingSign => "expected KEY=VALUE, got '" ++ value ++ "'"

/-- The message about arguments that make no command. Help, a version and the lack of arguments
have none. -/
def message? : Refusal → Option String
  | help _ => none
  | version => none
  | noCommand => none
  | unknownCommand word => some ("unrecognized subcommand '" ++ word ++ "'")
  | unknownArgument word => some ("unexpected argument '" ++ word ++ "' found")
  | missingArguments labels =>
    some ("the following required arguments were not provided:" ++
      String.join (labels.map fun l => "\n  " ++ l))
  | missingValue label => some ("a value is required for '" ++ label ++ "' but none was supplied")
  | repeated label => some ("the argument '" ++ label ++ "' cannot be used multiple times")
  | invalidPair value label fault =>
    some ("invalid value '" ++ value ++ "' for '" ++ label ++ "': " ++
      pairFaultMessage value fault)
  | needlessValue value option =>
    some ("unexpected value '" ++ value ++ "' for '" ++ option ++
      "' found; no more were expected")

def exitCode : Refusal → Nat
  | help _ => 0
  | version => 0
  | _ => 2

end Refusal

end UrlRouting.CommandLine

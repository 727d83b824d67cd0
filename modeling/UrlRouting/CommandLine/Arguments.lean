import UrlRouting.CommandLine.Command

/-! Reading of arguments. The values of an argument are checked only when the next one is known to
have begun, so of two faults the later may be the one reported. -/

namespace UrlRouting.CommandLine

structure Arguments where
  file : Option String
  aliasName : Option String
  fragment : Option String
  url : Option String
  params : List (String × String)
  query : List (String × String)
deriving DecidableEq, Repr, Inhabited

def Arguments.none : Arguments := ⟨.none, .none, .none, .none, [], []⟩

inductive Pending where
  | nothing
  | setting (s : Setting) (value : Option String)
  | url (value : String)
  | params (values : List String)
deriving DecidableEq, Repr, Inhabited

namespace Arguments

def checkedPair (label value : String) : Except Refusal (String × String) :=
  match pair? value with
  | .ok pair => .ok pair
  | .error fault => .error (.invalidPair value label fault)

/-- Sets a setting. Only query pairs may be given more than once, and only the path of the route
file must not be empty. -/
def set (a : Arguments) (s : Setting) (value : String) : Except Refusal Arguments :=
  match s with
  | .routes =>
    if a.file.isSome then .error (.repeated s.label)
    else if value = "" then .error (.missingValue s.label)
    else .ok { a with file := some value }
  | .aliasName =>
    if a.aliasName.isSome then .error (.repeated s.label)
    else .ok { a with aliasName := some value }
  | .fragment =>
    if a.fragment.isSome then .error (.repeated s.label)
    else .ok { a with fragment := some value }
  | .query => do
    let pair ← checkedPair s.label value
    .ok { a with query := a.query ++ [pair] }

def settle (a : Arguments) : Pending → Except Refusal Arguments
  | .nothing => .ok a
  | .setting s .none => .error (.missingValue s.label)
  | .setting s (some value) => a.set s value
  | .url value => .ok { a with url := some value }
  | .params values => do
    let pairs ← values.mapM (checkedPair paramsLabel)
    .ok { a with params := a.params ++ pairs }

def command (a : Arguments) : CommandName → Except Refusal Command
  | .recognize =>
    match a.file, a.url with
    | some file, some url => .ok (.recognize file url)
    | file, url => .error (.missingArguments
        ((if file.isNone then [Setting.routes.label] else []) ++
          (if url.isNone then [urlLabel] else [])))
  | .generate =>
    match a.file with
    | some file => .ok (.generate file a.aliasName a.params a.query a.fragment)
    | .none => .error (.missingArguments [Setting.routes.label])
  | .routes =>
    match a.file with
    | some file => .ok (.routes file)
    | .none => .error (.missingArguments [Setting.routes.label])

end Arguments

inductive Form where
  /-- The mark after which there are no options. -/
  | optionsEnd
  | long (name : String) (value : Option String)
  /-- A letter after a hyphen, and what follows it. -/
  | short (letter : Char) (rest : List Char)
  | word
deriving DecidableEq, Repr

def Form.of (argument : String) : Form :=
  match argument.toList with
  | ['-', '-'] => .optionsEnd
  | '-' :: '-' :: rest =>
    .long (String.ofList (rest.takeWhile (· != '=')))
      (match rest.dropWhile (· != '=') with
      | _ :: value => some (String.ofList value)
      | [] => none)
  | '-' :: letter :: rest => .short letter rest
  | _ => .word

/-- The value attached to a letter, before which an equals sign may stand. -/
def attached? : List Char → Option String
  | [] => none
  | '=' :: value => some (String.ofList value)
  | value => some (String.ofList value)

/-- The state of reading the arguments of a command. `literal` is set once there are no more
options, and `awaiting` while an option lacks its value. -/
structure Reading where
  done : Arguments
  pending : Pending
  awaiting : Bool
  literal : Bool
deriving DecidableEq, Repr, Inhabited

namespace Reading

def start : Reading := ⟨Arguments.none, .nothing, false, false⟩

def option (r : Reading) (s : Setting) (value : Option String) : Except Refusal Reading := do
  let done ← r.done.settle r.pending
  match value with
  | some value => do
    let done ← done.set s value
    .ok { r with done := done, pending := .nothing, awaiting := false }
  | none => .ok { r with done := done, pending := .setting s none, awaiting := true }

def helpAbout {α : Type} (r : Reading) (c : CommandName) : Except Refusal α := do
  let _ ← r.done.settle r.pending
  .error (.help (some c))

def word (r : Reading) (c : CommandName) (argument : String) : Except Refusal Reading :=
  match c, r.pending with
  | .generate, .params values =>
    .ok { r with pending := .params (values ++ [argument]), awaiting := false }
  | .generate, pending => do
    let done ← r.done.settle pending
    .ok { r with done := done, pending := .params [argument], awaiting := false }
  | .recognize, pending =>
    if r.done.url.isSome || (match pending with | .url _ => true | _ => false) then
      .error (.unknownArgument argument)
    else do
      let done ← r.done.settle pending
      .ok { r with done := done, pending := .url argument, awaiting := false }
  | .routes, _ => .error (.unknownArgument argument)

def valueOrWord (r : Reading) (c : CommandName) (argument : String) : Except Refusal Reading :=
  match r.awaiting, r.pending with
  | true, .setting s _ =>
    .ok { r with pending := .setting s (some argument), awaiting := false }
  | _, _ => r.word c argument

def long (r : Reading) (c : CommandName) (name : String) (value : Option String) :
    Except Refusal Reading :=
  match c.settings.find? (·.word == name) with
  | some s => r.option s value
  | none =>
    if name = "help" then
      match value with
      | some value => .error (.needlessValue value "--help")
      | none => r.helpAbout c
    else .error (.unknownArgument ("--" ++ name))

def short (r : Reading) (c : CommandName) (letter : Char) (rest : List Char) :
    Except Refusal Reading :=
  match c.settings.find? (·.letter == letter) with
  | some s => r.option s (attached? rest)
  | none =>
    if letter = 'h' then r.helpAbout c
    else .error (.unknownArgument (String.ofList ['-', letter]))

def next (r : Reading) (c : CommandName) (argument : String) : Except Refusal Reading :=
  if r.literal then r.word c argument
  else
    match Form.of argument with
    | .optionsEnd => .ok { r with literal := true }
    | .long name value => r.long c name value
    | .short letter rest => r.short c letter rest
    | .word => r.valueOrWord c argument

def finish (r : Reading) (c : CommandName) : Except Refusal Command := do
  let done ← r.done.settle r.pending
  done.command c

end Reading

namespace Command

def ofArguments (c : CommandName) (arguments : List String) : Except Refusal Command := do
  let r ← arguments.foldlM (fun (r : Reading) a => r.next c a) Reading.start
  r.finish c

def help : List String → Refusal
  | [] => .help none
  | [word] =>
    match CommandName.ofWord? word with
    | some c => .help (some c)
    | none => if word = "help" then .help none else .unknownCommand word
  | word :: second :: _ =>
    if (CommandName.ofWord? word).isSome ∨ word = "help" then .unknownCommand second
    else .unknownCommand word

def afterOptions : List String → Refusal
  | [] => .noCommand
  | word :: _ =>
    if (CommandName.ofWord? word).isSome ∨ word = "help" then .unknownArgument word
    else .unknownCommand word

def parse : List String → Except Refusal Command
  | [] => .error .noCommand
  | argument :: rest =>
    match CommandName.ofWord? argument with
    | some c => ofArguments c rest
    | none =>
      if argument = "help" then .error (help rest)
      else
        match Form.of argument with
        | .optionsEnd => .error (afterOptions rest)
        | .long "help" none => .error (.help none)
        | .long "version" none => .error .version
        | .long "help" (some value) => .error (.needlessValue value "--help")
        | .long "version" (some value) => .error (.needlessValue value "--version")
        | .long name _ => .error (.unknownArgument ("--" ++ name))
        | .short 'h' _ => .error (.help none)
        | .short 'V' _ => .error .version
        | .short letter _ => .error (.unknownArgument (String.ofList ['-', letter]))
        | .word => .error (.unknownCommand argument)

end Command

end UrlRouting.CommandLine

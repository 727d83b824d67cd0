import UrlRouting.CommandLine.Command

/-! Help texts of the command line. -/

namespace UrlRouting.CommandLine

def programName : String := "url-mapper"

def versionLine : String := programName ++ " 0.1.0-alpha.1\n"

def commandAbout : CommandName → String
  | .recognize => "Match a URL and print its parameters as JSON"
  | .generate => "Build a URL from KEY=VALUE parameters"
  | .routes => "Print the loaded route table"

def commandUsage : CommandName → String
  | .recognize => "--routes <ROUTES> <URL>"
  | .generate => "[OPTIONS] --routes <ROUTES> [PARAMS]..."
  | .routes => "--routes <ROUTES>"

def settingAbout : Setting → String
  | .routes => "Route file (YAML, TOML or JSON)"
  | .aliasName => "Only consider routes registered under this alias"
  | .query => "Query string pair, repeatable"
  | .fragment => "Fragment appended after \x60#\x60"

def padded (width : Nat) (s : String) : String :=
  s ++ String.ofList (List.replicate (width - s.length) ' ')

def entryLine (width : Nat) (entry : String × String) : String :=
  "  " ++ padded width entry.1 ++ "  " ++ entry.2 ++ "\n"

def entryLines (entries : List (String × String)) : String :=
  let width := (entries.map fun e => e.1.length).foldl max 0
  String.join (entries.map (entryLine width))

def settingEntry (s : Setting) : String × String :=
  (String.ofList ['-', s.letter] ++ ", " ++ s.label, settingAbout s)

def helpEntry : String × String := ("-h, --help", "Print help")

def generalHelp : String :=
  "Bidirectional URL mapper\n\nUsage: " ++ programName ++ " <COMMAND>\n\nCommands:\n" ++
    entryLines (([CommandName.recognize, .generate, .routes].map fun c =>
      (c.word, commandAbout c)) ++
      [("help", "Print this message or the help of the given subcommand(s)")]) ++
    "\nOptions:\n" ++ entryLines [helpEntry, ("-V, --version", "Print version")]

def argumentHelp : CommandName → String
  | .recognize => "\nArguments:\n" ++ entryLines [(urlLabel, "URL or path to match")]
  | .generate => "\nArguments:\n" ++ entryLines [(paramsLabel, "Route parameters")]
  | .routes => ""

def commandHelp (c : CommandName) : String :=
  commandAbout c ++ "\n\nUsage: " ++ programName ++ " " ++ c.word ++ " " ++ commandUsage c ++ "\n" ++
    argumentHelp c ++ "\nOptions:\n" ++ entryLines (c.settings.map settingEntry ++ [helpEntry])

end UrlRouting.CommandLine

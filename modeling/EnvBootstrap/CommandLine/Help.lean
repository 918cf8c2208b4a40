import EnvBootstrap.CommandLine.Arguments

/-!
# Help texts

The texts for `--help`, `-h`, `--version` and the command `help`.  A usage line names the program
as it was invoked.
-/

namespace EnvBootstrap.CommandLine

def title (text : String) : String := "\x1b[1m\x1b[4m" ++ text ++ "\x1b[0m"

def literal (text : String) : String := "\x1b[1m" ++ text ++ "\x1b[0m"

def versionText : String := "idds-env 0.1.0\n"

/-- The name of the program where the one it was invoked by is no text. -/
def defaultName : String := "idds-env"

def unlines (lines : List String) : String := String.join (lines.map (· ++ "\n"))

def Command.name : Command → String
  | .activate => "activate"
  | .show => "show"

def Command.summary : Command → String
  | .activate => "Publish the project root and activate the environment (default)"
  | .show => "Print the resolved directories and shell without activating anything"

def helpSummary : String := "Print this message or the help of the given subcommand(s)"

def shellSummary : String := "Shell flavor of the printed script (posix, csh, fish)"

def usageLine (program : Option String) (command : Option String)
    (operands : String) : String :=
  let name :=
    match program, command with
    | some program, some command => program ++ " " ++ command
    | some program, none => program
    | none, some command => command
    | none, none => defaultName
  title "Usage:" ++ " " ++ literal name ++ " " ++ operands

def sharedOptions (help : String) : List String :=
  ["      " ++ literal "--shell" ++ " <SHELL>  " ++ shellSummary,
    "  " ++ literal "-v" ++ ", " ++ literal "--verbose" ++ "        Log each step to stderr",
    "  " ++ literal "-h" ++ ", " ++ literal "--help" ++ "           " ++ help]

def programHelp (program : Option String) (long : Bool) : String :=
  let about :=
    if long then
      ["Activate the iDDS development environment.", "",
        "Prints shell code on stdout, use as: eval \"$(tools/env/idds-env)\""]
    else ["Activate the iDDS development environment"]
  let commands :=
    [title "Commands:",
      "  " ++ literal "activate" ++ "  " ++ Command.activate.summary,
      "  " ++ literal "show" ++ "      " ++ Command.show.summary,
      "  " ++ literal "help" ++ "      " ++ helpSummary]
  let options :=
    if long then
      ["      " ++ literal "--shell" ++ " <SHELL>",
        "          " ++ shellSummary, "",
        "  " ++ literal "-v" ++ ", " ++ literal "--verbose",
        "          Log each step to stderr", "",
        "  " ++ literal "-h" ++ ", " ++ literal "--help",
        "          Print help (see a summary with '-h')", "",
        "  " ++ literal "-V" ++ ", " ++ literal "--version",
        "          Print version"]
    else
      sharedOptions "Print help (see more with '--help')" ++
        ["  " ++ literal "-V" ++ ", " ++ literal "--version" ++ "        Print version"]
  unlines (about ++ ["", usageLine program none "[OPTIONS] [COMMAND]", ""] ++
    commands ++ [""] ++ title "Options:" :: options)

def commandHelp (program : Option String) (command : Command) : String :=
  unlines
    ([command.summary, "", usageLine program (some command.name) "[OPTIONS]", "",
      title "Options:"] ++ sharedOptions "Print help")

/-- A help text.  A program whose name is no text goes by another one, or by none in front of a
command. -/
def helpText (program : Option String) (topic : Topic) (long : Bool) : String :=
  match topic with
  | .program => programHelp program long
  | .command command => commandHelp program command
  | .help =>
    unlines
      [helpSummary, "", usageLine program (some "help") "[COMMAND]...", "",
        title "Arguments:",
        "  [COMMAND]...  Print help for the subcommand(s)"]

end EnvBootstrap.CommandLine

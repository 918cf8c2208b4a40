import EnvBootstrap.CommandLine.Help
import EnvBootstrap.CommandLine.Terminal
import EnvBootstrap.Conda
import EnvBootstrap.Config.Loading
import EnvBootstrap.Entry
import EnvBootstrap.Log.Line

/-!
# The program

A whole run, from its arguments and the world around it to its exit code and output.  Nothing
reaches standard output unless every step has succeeded.
-/

namespace EnvBootstrap

open Log (Event)
open CommandLine (Command Options Invocation)

structure CommandRun where
  events : List Event
  request : Option Child.Request
  result : Except Error String

def activate (host : Host) (script : Path) (config : Config) (shell : Option Shell) : CommandRun :=
  let shell := shell.getD config.conda.shell
  let conda := Conda.locate config.conda.executable (host.value? condaVariable) shell
  let run := bootstrap script config.layout (conda.activate host.environment host.start) .empty
  { events := .conda conda.executable :: run.events
    request :=
      match run.call, conda.executable with
      | some (environment, exports), some executable =>
        some (conda.request host.environment executable environment exports)
      | _, _ => none
    result :=
      match run.result with
      | .ok done => .ok (run.exports.render shell ++ done.script)
      | .error error => .error error }

def showText (layout : Layout) (variableName : String) (shell : Shell) : String :=
  "script:      " ++ layout.script.display ++ "\n" ++
  "tools:       " ++ layout.tools.display ++ "\n" ++
  "root:        " ++ layout.root.display ++ "\n" ++
  "environment: " ++ layout.environment.display ++ "\n" ++
  "variable:    " ++ variableName ++ "\n" ++
  "shell:       " ++ shell.name ++ "\n"

def «show» (script : Path) (config : Config) (shell : Option Shell) : CommandRun where
  events := []
  request := none
  result :=
    match Layout.compute script config.layout.levels config.layout.environment with
    | .ok layout =>
      .ok (showText layout config.layout.variableName (shell.getD config.conda.shell))
    | .error error => .error error

def runCommand (host : Host) (command : Command) (options : Options) : CommandRun :=
  let (found, directory) := host.ownDirectory
  let before : List Event := .entered .resolve :: found
  match directory with
  | .error error => { events := before, request := none, result := .error error }
  | .ok script =>
    let (loaded, config) := Config.load host.readFile script
    let before := before ++ .entered .configure :: loaded
    match config with
    | .error error => { events := before, request := none, result := .error error }
    | .ok config =>
      let run :=
        match command with
        | .activate => activate host script config options.shell
        | .show => «show» script config options.shell
      { run with events := before ++ run.events }

structure Outcome where
  code : UInt8
  stdout : String
  stderr : String
  request : Option Child.Request

def logVariable : String := "IDDS_ENV_LOG"

def Host.text? (host : Host) (name : String) : Option String :=
  (host.value? name).bind Utf8.decode?

def Host.colours (host : Host) : Bool :=
  match host.text? "NO_COLOR" with
  | some text => text = ""
  | none => true

def ignoredLine (ignored : String × Log.DirectiveFault) : String :=
  "ignoring `" ++ ignored.1 ++ "`: " ++ ignored.2.message ++ "\n"

/-- The name in usage lines: the last component of the path that the program was invoked by, if
it is a text. -/
def programName (invoked : Path) : Option String :=
  match invoked.components.getLast? with
  | some (.name bytes) => Utf8.decode? bytes
  | _ => none

def Host.forcesColours (host : Host) : Bool :=
  (host.value? "NO_COLOR").getD [] = [] &&
    (host.value? "CLICOLOR_FORCE").getD (Utf8.encode "0") ≠ Utf8.encode "0"

def helpOutput (host : Host) (invoked : Path) (topic : CommandLine.Topic) (long : Bool) : String :=
  let text := CommandLine.helpText (programName invoked) topic long
  if host.forcesColours then text else CommandLine.withoutSequences text

def usageText (program : String) : String :=
  "error: invalid arguments\n\nUsage: " ++ program ++
    " [OPTIONS] [COMMAND]\n\nFor more information, try '--help'.\n"

/-- The exit code of a run that is given up before its first step. -/
def abortCode : UInt8 := 101

def report (host : Host) (command : Command) (options : Options) : Outcome :=
  match Log.Filter.ofText? ((host.text? logVariable).getD "")
    (if options.verbose then .debug else .off) with
  | none =>
    { code := abortCode
      stdout := ""
      stderr := logVariable ++ ": " ++ Log.DirectiveFault.message .brokenCharacter ++ "\n"
      request := none }
  | some (ignored, filter) =>
    let run := runCommand host command options
    let log := String.join (ignored.map ignoredLine) ++ Log.lines filter host.colours run.events
    match run.result with
    | .ok text => { code := 0, stdout := text, stderr := log, request := run.request }
    | .error error =>
      { code := 1
        stdout := ""
        stderr := log ++ "error: " ++ error.step.title ++ ": " ++ error.message ++ "\n"
        request := run.request }

/-- A whole run.  `invoked` is the path that the program was invoked by. -/
def run (host : Host) (invoked : Path) (arguments : List Bytes) : Outcome :=
  match CommandLine.read arguments with
  | .run command options => report host command options
  | .help topic long =>
    { code := 0
      stdout := helpOutput host invoked topic long
      stderr := ""
      request := none }
  | .version => { code := 0, stdout := CommandLine.versionText, stderr := "", request := none }
  | .mistaken =>
    let name := (programName invoked).getD CommandLine.defaultName
    { code := 2, stdout := "", stderr := usageText name, request := none }

end EnvBootstrap

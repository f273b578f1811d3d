import ProviderForge.CommandLine.Invocation
import ProviderForge.CommandLine.LogFilter
import ProviderForge.Definition.Load
import ProviderForge.Run

namespace ProviderForge.CommandLine

structure Execution where
  exitCode : UInt8
  output : String := ""
  /-- What goes to the error output, log lines included. -/
  errors : String := ""
  /-- The files written, in the order of their paths. -/
  written : List GeneratedFile := []
  tree : Tree

def valueText : EventValue → String
  | .text value => value
  | .quoted value => Quoted.shown value
  | .natural value => s!"{value}"
  | .flag value => s!"{value}"

def logLine (event : Event) : String :=
  let fields := event.fields.map fun (name, value) => s!" {name}={valueText value}"
  event.level.name ++ " " ++ event.message ++ String.join fields

def logText (filter : LogFilter) (events : List Event) : String :=
  Usage.unlines ((events.filter filter.admits).map logLine)

def listText (items : List String) : String :=
  "[" ++ String.intercalate ", " (items.map Quoted.shown) ++ "]"

def recordText (name : String) (fields : List (String × String)) : String :=
  let fields := fields.map fun (name, value) => name ++ ": " ++ value
  name ++ " \x7b " ++ String.intercalate ", " fields ++ " \x7d"

def failureText : Failure → String
  | .invalidConfiguration reason => "ConfigError(" ++ Quoted.shown reason ++ ")"
  | .duplicateEntity kind name =>
      recordText "DuplicateEntity"
        [("kind", Quoted.shown kind), ("name", Quoted.shown name)]
  | .tasksFailed tasks => recordText "TasksFailed" [("failures", listText tasks)]
  | failure => failure.message

def failureLine (failure : Failure) : String :=
  "Error: " ++ failureText failure ++ "\n"

def preview (report : Report) : String :=
  String.join (report.files.map fun file =>
    "// ==> " ++ file.path ++ "\n" ++ file.content ++ "\n")

def summaryLines (isDryRun : Bool) (report : Report) : List String :=
  let verb := if isDryRun then "rendered" else "wrote"
  report.files.map (fun file => s!"  {verb} {file.path}") ++
    report.failures.map (fun failed => s!"  failed {failed.task}: {failed.failure.message}") ++
    if report.isSuccess then [s!"✨ Done: {report.files.length} file(s)"] else []

namespace Invocation

def options (invocation : Invocation) : RunOptions where
  outputDirectory := invocation.output
  filter := invocation.filter
  isDryRun := invocation.isDryRun

def conclude (invocation : Invocation) (report : Report) (log : String) (tree : Tree) :
    Execution :=
  let errors := log ++ Usage.unlines (summaryLines invocation.isDryRun report)
  let output := if invocation.isDryRun then preview report else ""
  let written := if invocation.isDryRun then [] else report.files
  match report.result with
  | .ok _ => { exitCode := 0, output, errors, written, tree }
  | .error failure =>
      { exitCode := 1, output, errors := errors ++ failureLine failure, written, tree }

def execute (invocation : Invocation) (filter : LogFilter) (tree : Tree) : Execution :=
  let loaded := Definitions.load tree invocation.definitions
  match loaded.result with
  | .error failure =>
      { exitCode := 1, errors := logText filter loaded.events ++ failureLine failure, tree }
  | .ok definitions =>
      let start := Event.generating definitions.dataSources.length definitions.resources.length
        invocation.output
      let (next, outcome) := definitions.run invocation.options tree
      let log := logText filter (loaded.events ++ start :: outcome.events)
      match outcome.result with
      | .error failure =>
          { exitCode := 1, errors := log ++ failureLine failure, tree := next }
      | .ok report => invocation.conclude report log next

end Invocation

/-- Executes the command with the arguments behind its name. `requested` is the log filter that
the environment asks for. -/
def execute (arguments : List String) (requested : Option String) (tree : Tree) : Execution :=
  match Invocation.ofArguments arguments with
  | .error .help => { exitCode := 0, output := Usage.helpText, tree }
  | .error .version => { exitCode := 0, output := Usage.versionText, tree }
  | .error (.refused fault) => { exitCode := 2, errors := fault.message, tree }
  | .ok invocation =>
      invocation.execute (LogFilter.choose requested invocation.verbosity) tree

end ProviderForge.CommandLine

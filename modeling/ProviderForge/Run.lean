import ProviderForge.Disk.Write
import ProviderForge.Generated
import ProviderForge.Task

namespace ProviderForge

structure RunOptions where
  outputDirectory : String := ""
  filter : Option String := none
  isDryRun : Bool := false
deriving DecidableEq, Repr, Inhabited

structure TaskFailure where
  task : String
  failure : Failure
deriving DecidableEq, Repr

/-- The files in the order of their paths, and the failures in the order of their tasks. -/
structure Report where
  files : List GeneratedFile := []
  failures : List TaskFailure := []
deriving DecidableEq, Repr

namespace Report

def isSuccess (report : Report) : Bool :=
  report.failures.isEmpty

def result (report : Report) : Except Failure (List GeneratedFile) :=
  if report.isSuccess then .ok report.files
  else .error (.tasksFailed (report.failures.map (·.task)))

def sorted (report : Report) : Report :=
  { files := report.files.mergeSort fun left right => decide (left.path ≤ right.path)
    failures := report.failures.mergeSort fun left right => decide (left.task ≤ right.task) }

end Report

namespace Task

def path (task : Task) (outputDirectory : String) : String :=
  Path.join outputDirectory (task.moduleName ++ ".rs")

def render (task : Task) (outputDirectory : String) : Traced Failure GeneratedFile := do
  let code ← task.code
  Traced.ofExcept (GeneratedFile.render (task.path outputDirectory) code)

end Task

structure Outcome where
  task : String
  result : Except Failure GeneratedFile

namespace Outcome

def event (outcome : Outcome) : Event :=
  match outcome.result with
  | .ok file => .generated outcome.task file.path
  | .error failure => .taskFailed outcome.task failure.message

def files (outcomes : List Outcome) : List GeneratedFile :=
  outcomes.filterMap fun outcome => outcome.result.toOption

def failures (outcomes : List Outcome) : List TaskFailure :=
  outcomes.filterMap fun outcome =>
    match outcome.result with
    | .ok _ => none
    | .error failure => some ⟨outcome.task, failure⟩

def report (outcomes : List Outcome) : Report :=
  Report.sorted ⟨files outcomes, failures outcomes⟩

end Outcome

namespace RunOptions

/-- Carries the task out: the tree then, what came of it, and the events on the way. -/
def perform (options : RunOptions) (tree : Tree) (task : Task) : Tree × Outcome × List Event :=
  let rendered := task.render options.outputDirectory
  match rendered.result with
  | .error failure => (tree, ⟨task.moduleName, .error failure⟩, rendered.events)
  | .ok file =>
      if options.isDryRun then (tree, ⟨task.moduleName, .ok file⟩, rendered.events)
      else
        let (next, written) := tree.writeAtomic file.path file.content
        (next, ⟨task.moduleName, written.map fun _ => file⟩, rendered.events)

def performAll (options : RunOptions) (tree : Tree) :
    List Task → Tree × List Outcome × List Event
  | [] => (tree, [], [])
  | task :: tasks =>
      let (next, outcome, events) := options.perform tree task
      let (last, outcomes, later) := options.performAll next tasks
      (last, outcome :: outcomes, events ++ later)

end RunOptions

/-- Runs the generation on a tree. Only what keeps the tasks from being planned is a failure of
the run. -/
def Definitions.run (definitions : Definitions) (options : RunOptions) (tree : Tree) :
    Tree × Traced Failure Report :=
  match definitions.plan options.filter with
  | .error failure => (tree, ⟨.error failure, []⟩)
  | .ok tasks =>
      let (next, outcomes, events) := options.performAll tree tasks
      (next, {
        result := .ok (Outcome.report outcomes)
        events := .planned tasks.length options.isDryRun :: events ++
          outcomes.map Outcome.event })

end ProviderForge

import ProviderForge.CommandLine.Execution
import ProviderForge.Proofs.CommandLine.Arguments
import ProviderForge.Proofs.Disk.Atomic
import ProviderForge.Proofs.Run.Preview

namespace ProviderForge

open Result

namespace Tree

end Tree

namespace CommandLine

namespace Invocation

def Plans (invocation : Invocation) (tree : Tree) (tasks : List Task) : Prop :=
  ∃ definitions, (Definitions.load tree invocation.definitions).result = .ok definitions ∧
    definitions.plan invocation.filter = .ok tasks

def outcomes (invocation : Invocation) (tree : Tree) (tasks : List Task) : List Outcome :=
  (invocation.options.performAll tree tasks).2.1

theorem Plans.unique {invocation : Invocation} {tree : Tree} {tasks others : List Task}
    (hplans : invocation.Plans tree tasks) (hothers : invocation.Plans tree others) :
    tasks = others := by
  obtain ⟨definitions, hload, hplan⟩ := hplans
  obtain ⟨found, hfound, hother⟩ := hothers
  rw [hload] at hfound
  obtain rfl := Except.ok.inj hfound
  rw [hplan] at hother
  exact Except.ok.inj hother

end Invocation

def ending (report : Report) : String :=
  if report.failures = [] then s!"✨ Done: {report.files.length} file(s)" ++ "\n"
  else failureLine (.tasksFailed (report.failures.map (·.task)))

namespace Execution

/-- The output shows the files that the tasks render, each as `real` writes it. -/
structure Shows (outputDirectory : String) (tasks : List Task) (report : Report)
    (execution real : Execution) : Prop where
  rendered : report.files.Perm
    (tasks.filterMap fun task => (task.render outputDirectory).result.toOption)
  output : execution.output = String.join (report.files.map fun file =>
    "// ==> " ++ file.path ++ "\n" ++ file.content ++ "\n")
  asWritten : ∀ file ∈ report.files, ∀ written ∈ real.written, written.path = file.path →
    written.content = file.content ∧ real.tree.read file.path = .ok file.content

structure Writes (report : Report) (execution : Execution) : Prop where
  written : execution.written = report.files
  held : ∀ file ∈ report.files, execution.tree.read file.path = .ok file.content

end Execution

namespace Invocation

variable {invocation : Invocation} {tree : Tree}

end Invocation

section

variable {arguments : List String} {invocation : Invocation} {tree : Tree}

end

end CommandLine

end ProviderForge

import ProviderForge.Proofs.Disk.Atomic
import ProviderForge.Proofs.Run.Plan

namespace ProviderForge

open ProviderForge.Tree

def Task.temporary (task : Task) (outputDirectory : String) : String :=
  Path.join outputDirectory (task.moduleName ++ ".rs.tmp")

namespace Task

theorem isPlain_file {task : Task} (hnamed : task.IsNamed) :
    Path.IsPlain (task.moduleName ++ ".rs") :=
  (isStem_moduleName hnamed).isPlain_append (by decide) (by decide)

theorem isPlain_temporary {task : Task} (hnamed : task.IsNamed) :
    Path.IsPlain (task.moduleName ++ ".rs.tmp") :=
  (isStem_moduleName hnamed).isPlain_append (by decide) (by decide)

theorem temporaryPath_path {task : Task} (hnamed : task.IsNamed) (outputDirectory : String) :
    temporaryPath (task.path outputDirectory) = task.temporary outputDirectory :=
  Path.temporaryPath_join outputDirectory (isStem_moduleName hnamed)

theorem file_ne_temporary {task other : Task} :
    task.moduleName ++ ".rs" ≠ other.moduleName ++ ".rs.tmp" := by
  intro heq
  have hlast := congrArg (fun text => text.toList.reverse.take 1) heq
  simp at hlast

end Task

/-- What has become of a place when the tasks in `done` have written their files and those in
`tried` may have lost their temporary files. -/
inductive Tree.Change (outputDirectory : String) (done tried : List Task) (tree later : Tree)
    (place : Place) : Prop
  | same (equal : later.get? place = tree.get? place)
  | written (task : Task) (isDone : task ∈ done)
      (leads : later.Leads (task.path outputDirectory) place)
      (wasNoDirectory : tree.get? place ≠ some .directory)
  | dropped (task : Task) (isTried : task ∈ tried) (isNamed : task.IsNamed)
      (leads : later.Leads (task.temporary outputDirectory) place)
      (wasFile : ∃ content, tree.get? place = some (.file content))
      (isGone : later.get? place = none)
  | made (wasNothing : tree.get? place = none) (isDirectory : later.get? place = some .directory)
      (isOnTheWay : later.OnTheWay (Path.names outputDirectory) place)

structure Tree.Confined (outputDirectory : String) (done tried : List Task)
    (tree later : Tree) : Prop where
  named : ∀ task ∈ done, task.IsNamed
  keeps : KeepsDirectories tree later
  change : ∀ place, Change outputDirectory done tried tree later place

namespace Tree

theorem Confined.refl (outputDirectory : String) (tree : Tree) :
    Confined outputDirectory [] [] tree tree :=
  ⟨by simp, .refl tree, fun _ => .same rfl⟩

theorem Confined.mono {outputDirectory : String} {done tried more : List Task}
    {tree later : Tree} (hconfined : Confined outputDirectory done tried tree later)
    (hsubset : tried ⊆ more) : Confined outputDirectory done more tree later := by
  refine ⟨hconfined.named, hconfined.keeps, fun place => ?_⟩
  cases hconfined.change place with
  | same equal => exact .same equal
  | written task isDone leads wasNoDirectory => exact .written task isDone leads wasNoDirectory
  | dropped task isTried isNamed leads wasFile isGone =>
      exact .dropped task (hsubset isTried) isNamed leads wasFile isGone
  | made wasNothing isDirectory isOnTheWay => exact .made wasNothing isDirectory isOnTheWay

/-- Once a task's temporary file could be named, the output directory is there, and no more
directories are made. -/
theorem Change.not_made {outputDirectory : String} {middle later : Tree} {place : Place}
    {task : Task} (hnamed : task.IsNamed) (hkeeps : KeepsDirectories middle later)
    (hleads : middle.Leads (task.temporary outputDirectory) place)
    (hnothing : middle.get? place = none)
    (hway : later.OnTheWay (Path.names outputDirectory) place) : False := by
  obtain ⟨outer, hwhole, -⟩ := Leads.join (Task.isPlain_temporary hnamed) hleads
  obtain ⟨front, hfront, hat⟩ := hway
  obtain ⟨inner, hinner⟩ := directoryAt_prefix hfront hwhole
  have heq : place = inner := by
    have hlater := directoryAt_of_keeps hkeeps hinner
    rw [hat] at hlater
    exact Except.ok.inj hlater
  rw [heq, (directoryAt_ok.mp hinner).2] at hnothing
  simp at hnothing

theorem Confined.trans {outputDirectory : String} {done tried otherDone otherTried : List Task}
    {tree middle later : Tree} (hfirst : Confined outputDirectory done tried tree middle)
    (hsecond : Confined outputDirectory otherDone otherTried middle later) :
    Confined outputDirectory (done ++ otherDone) (tried ++ otherTried) tree later := by
  refine ⟨?_, hfirst.keeps.trans hsecond.keeps, fun place => ?_⟩
  · intro task hmem
    rcases List.mem_append.mp hmem with hmem | hmem
    · exact hfirst.named task hmem
    · exact hsecond.named task hmem
  · cases hfirst.change place with
    | written task isDone leads wasNoDirectory =>
        exact .written task (by simp [isDone]) (leads.of_keeps hsecond.keeps) wasNoDirectory
    | same equal =>
        cases hsecond.change place with
        | same equalLater => exact .same (equalLater.trans equal)
        | written task isDone leads wasNoDirectory =>
            exact .written task (by simp [isDone]) leads (equal ▸ wasNoDirectory)
        | dropped task isTried isNamed leads wasFile isGone =>
            exact .dropped task (by simp [isTried]) isNamed leads (equal ▸ wasFile) isGone
        | made wasNothing isDirectory isOnTheWay =>
            exact .made (equal ▸ wasNothing) isDirectory isOnTheWay
    | dropped task isTried isNamed leads wasFile isGone =>
        have hleads := leads.of_keeps hsecond.keeps
        cases hsecond.change place with
        | same equal =>
            exact .dropped task (by simp [isTried]) isNamed hleads wasFile (equal.trans isGone)
        | written other isDone leadsOther wasNoDirectory =>
            obtain ⟨content, hcontent⟩ := wasFile
            exact .written other (by simp [isDone]) leadsOther (by simp [hcontent])
        | dropped other _ _ _ wasFileOther _ =>
            obtain ⟨content, hcontent⟩ := wasFileOther
            simp [isGone] at hcontent
        | made wasNothing isDirectory isOnTheWay =>
            exact (Change.not_made isNamed hsecond.keeps leads isGone isOnTheWay).elim
    | made wasNothing isDirectory isOnTheWay =>
        have hdirectory := hsecond.keeps place isDirectory
        exact .made wasNothing hdirectory (isOnTheWay.of_keeps hsecond.keeps)

/-- The place of a file that no task has written holds what it held, or has become a directory
on the way. -/
theorem Confined.get?_file {outputDirectory : String} {done tried : List Task}
    {tree later : Tree} (hconfined : Confined outputDirectory done tried tree later)
    {task : Task} (hnamed : task.IsNamed)
    (hother : task.moduleName ∉ done.map (·.moduleName)) {place : Place}
    (hleads : later.Leads (task.path outputDirectory) place) :
    later.get? place = tree.get? place ∨
      tree.get? place = none ∧ later.get? place = some .directory ∧
        later.OnTheWay (Path.names outputDirectory) place := by
  have hlast := hleads.getLast?_join (Task.isPlain_file hnamed)
  cases hconfined.change place with
  | same equal => exact .inl equal
  | made wasNothing isDirectory isOnTheWay => exact .inr ⟨wasNothing, isDirectory, isOnTheWay⟩
  | written other isDone leads wasNoDirectory =>
      rw [leads.getLast?_join (Task.isPlain_file (hconfined.named other isDone))] at hlast
      have hmodule : other.moduleName = task.moduleName :=
        (String.append_left_inj ".rs").mp (Option.some.inj hlast)
      exact absurd (hmodule ▸ List.mem_map_of_mem isDone) hother
  | dropped other isTried isNamed leads wasFile isGone =>
      rw [leads.getLast?_join (Task.isPlain_temporary isNamed)] at hlast
      exact absurd (Option.some.inj hlast).symm Task.file_ne_temporary

private theorem Beside.change {outputDirectory : String} {done : List Task} {tree later : Tree}
    {place : Place} {task : Task} (hnamed : task.IsNamed)
    (hbeside : Beside (task.path outputDirectory) tree later place) :
    Change outputDirectory done [task] tree later place := by
  cases hbeside with
  | same unchanged => exact .same unchanged
  | removed leads wasFile isGone =>
      rw [Task.temporaryPath_path hnamed] at leads
      exact .dropped task (by simp) hnamed leads wasFile isGone
  | made isMade =>
      have hway := isMade.isAncestor.mono (Path.outerNames_join (Task.isPlain_file hnamed))
      exact .made isMade.wasMissing isMade.isDirectory hway

end Tree

end ProviderForge

import ProviderForge.Proofs.Run.Confined

namespace ProviderForge

open Result ProviderForge.Tree

theorem Task.path_of_render {task : Task} {outputDirectory : String} {file : GeneratedFile}
    (hrender : (task.render outputDirectory).result = .ok file) :
    task.IsNamed ∧ file.path = task.path outputDirectory := by
  simp only [Task.render, Traced.result_bind, Traced.result_ofExcept, bind_eq_ok] at hrender
  obtain ⟨code, hcode, hfile⟩ := hrender
  refine ⟨isNamed_of_code hcode, ?_⟩
  simp only [GeneratedFile.render, bind_eq_ok, pure_eq_ok] at hfile
  obtain ⟨_, -, rfl⟩ := hfile
  rfl

/-- The tasks have ended as the outcomes tell, those in `done` with their files written. -/
structure Outcome.Accounts (outputDirectory : String) (tasks done failed : List Task)
    (outcomes : List Outcome) (tree later : Tree) : Prop where
  partition : (done ++ failed).Perm tasks
  files : (Outcome.files outcomes).map (·.path) = done.map (·.path outputDirectory)
  failures : (Outcome.failures outcomes).map (·.task) = failed.map (·.moduleName)
  held : ∀ file ∈ Outcome.files outcomes, later.read file.path = .ok file.content
  confined : Confined outputDirectory done tasks tree later

/-- What a task has written stays, as long as the tasks behind it have other names. -/
theorem Tree.Confined.read_of_read {outputDirectory : String} {done tried : List Task}
    {tree later : Tree} (hconfined : Confined outputDirectory done tried tree later)
    {task : Task} (hnamed : task.IsNamed)
    (hother : task.moduleName ∉ done.map (·.moduleName)) {content : String}
    (hread : tree.read (task.path outputDirectory) = .ok content) :
    later.read (task.path outputDirectory) = .ok content := by
  obtain ⟨place, hleads, hfile, hslash⟩ := read_ok.mp hread
  have hlater := hleads.of_keeps hconfined.keeps
  rcases hconfined.get?_file hnamed hother hlater with hsame | ⟨hnothing, -⟩
  · exact read_ok.mpr ⟨place, hlater, hsame.trans hfile, hslash⟩
  · simp [hfile] at hnothing

theorem pairwise_sortedBy (nameOf : α → String) (entries : List α) :
    (entries.mergeSort fun left right => decide (nameOf left ≤ nameOf right)).Pairwise
      fun left right => nameOf left ≤ nameOf right := by
  have hsorted : (entries.mergeSort fun left right =>
      decide (nameOf left ≤ nameOf right)).Pairwise
        fun left right => decide (nameOf left ≤ nameOf right) = true := by
    refine List.pairwise_mergeSort ?_ ?_ entries
    · intro first second third hfirst hsecond
      simp only [decide_eq_true_eq] at hfirst hsecond ⊢
      exact String.le_trans hfirst hsecond
    · intro first second
      simp only [Bool.or_eq_true, decide_eq_true_eq]
      exact String.le_total (nameOf first) (nameOf second)
  exact hsorted.imp of_decide_eq_true

theorem eq_of_mem_of_nodup {nameOf : α → String} {entities : List α} {first second : α}
    (hnodup : (entities.map nameOf).Nodup) (hfirst : first ∈ entities) (hsecond : second ∈ entities)
    (hname : nameOf first = nameOf second) : first = second := by
  obtain ⟨index, hindex⟩ := List.getElem?_of_mem hfirst
  obtain ⟨other, hother⟩ := List.getElem?_of_mem hsecond
  have hmap : (entities.map nameOf)[index]? = (entities.map nameOf)[other]? := by
    rw [List.getElem?_map, List.getElem?_map, hindex, hother, Option.map_some, Option.map_some,
      hname]
  have hlength : index < (entities.map nameOf).length := by
    rw [List.length_map]
    exact (List.getElem?_eq_some_iff.mp hindex).1
  obtain rfl := (List.getElem?_inj hlength hnodup).mp hmap
  exact Option.some.inj (hindex.symm.trans hother)

theorem eq_of_sortedBy {nameOf : α → String} {entries others : List α}
    (hnodup : (entries.map nameOf).Nodup)
    (hentries : entries.Pairwise fun left right => nameOf left ≤ nameOf right)
    (hothers : others.Pairwise fun left right => nameOf left ≤ nameOf right)
    (hperm : entries.Perm others) : entries = others := by
  refine List.Perm.eq_of_pairwise ?_ hentries hothers hperm
  intro first second hfirst hsecond hle hge
  exact eq_of_mem_of_nodup hnodup hfirst (hperm.symm.subset hsecond) (String.le_antisymm hle hge)

/-- The report and the tree behind a run in which the tasks in `done` succeeded and those in
`failed` did not. -/
structure Report.Accounts (outputDirectory : String) (done failed : List Task)
    (tree later : Tree) (report : Report) : Prop where
  distinct : ((done ++ failed).map (·.moduleName)).Nodup
  files : (report.files.map (·.path)).Perm (done.map (·.path outputDirectory))
  failures : (report.failures.map (·.task)).Perm (failed.map (·.moduleName))
  filesSorted : report.files.Pairwise fun left right => left.path ≤ right.path
  failuresSorted : report.failures.Pairwise fun left right => left.task ≤ right.task
  held : ∀ file ∈ report.files, later.read file.path = .ok file.content
  /-- What could be read at the path of a failed task can still be read. -/
  readable : ∀ task ∈ failed, task.IsNamed → ∀ content,
    tree.read (task.path outputDirectory) = .ok content →
      later.read (task.path outputDirectory) = .ok content
  /-- The path of a failed task leads to what stood there before, or to a directory that was
  missing on the way to the output directory. -/
  kept : ∀ task ∈ failed, task.IsNamed → ∀ place,
    later.Leads (task.path outputDirectory) place →
      later.get? place = tree.get? place ∨
        tree.get? place = none ∧ later.get? place = some .directory ∧
          later.OnTheWay (Path.names outputDirectory) place
  confined : Confined outputDirectory done (done ++ failed) tree later

theorem Outcome.Accounts.report {outputDirectory : String} {tasks done failed : List Task}
    {outcomes : List Outcome} {tree later : Tree}
    (haccounts : Outcome.Accounts outputDirectory tasks done failed outcomes tree later)
    (hdistinct : (tasks.map (·.moduleName)).Nodup) :
    (Outcome.report outcomes).Accounts outputDirectory done failed tree later := by
  have hnodup : ((done ++ failed).map (·.moduleName)).Nodup :=
    ((haccounts.partition.map (·.moduleName)).nodup_iff).mpr hdistinct
  have hother : ∀ task ∈ failed, task.moduleName ∉ done.map (·.moduleName) := by
    intro task hfailed hdone
    rw [List.map_append, List.nodup_append] at hnodup
    exact hnodup.2.2 _ hdone _ (List.mem_map_of_mem hfailed) rfl
  have hconfined : Confined outputDirectory done (done ++ failed) tree later :=
    haccounts.confined.mono haccounts.partition.symm.subset
  have hfiles : (Outcome.report outcomes).files.Perm (Outcome.files outcomes) :=
    List.mergeSort_perm _ _
  have hfailures : (Outcome.report outcomes).failures.Perm (Outcome.failures outcomes) :=
    List.mergeSort_perm _ _
  exact {
    distinct := hnodup
    files := haccounts.files ▸ hfiles.map (·.path)
    failures := haccounts.failures ▸ hfailures.map (·.task)
    filesSorted := pairwise_sortedBy GeneratedFile.path _
    failuresSorted := pairwise_sortedBy TaskFailure.task _
    held := fun file hfile => haccounts.held file (hfiles.subset hfile)
    readable := fun task hfailed hnamed _ hread =>
      hconfined.read_of_read hnamed (hother task hfailed) hread
    kept := fun task hfailed hnamed _ hleads =>
      hconfined.get?_file hnamed (hother task hfailed) hleads
    confined := hconfined }

end ProviderForge

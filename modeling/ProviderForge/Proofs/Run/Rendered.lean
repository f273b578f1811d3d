import ProviderForge.Proofs.Run.Outcome

namespace ProviderForge

open Result

theorem Task.code_of_render {task : Task} {outputDirectory : String} {file : GeneratedFile}
    (hrender : (task.render outputDirectory).result = .ok file) :
    ∃ code content, task.code.result = .ok code ∧ GeneratedFile.contentOf code = .ok content ∧
      file = ⟨task.path outputDirectory, content⟩ := by
  simp only [Task.render, Traced.result_bind, Traced.result_ofExcept, bind_eq_ok,
    GeneratedFile.render, pure_eq_ok] at hrender
  obtain ⟨code, hcode, content, hcontent, rfl⟩ := hrender
  exact ⟨code, content, hcode, hcontent, rfl⟩

theorem Task.render_of_code {task : Task} {code : Code} {source : SourceFile}
    (hcode : task.code.result = .ok code) (hsource : SourceFile.ofCode code = .ok source)
    (outputDirectory : String) :
    (task.render outputDirectory).result =
      .ok ⟨task.path outputDirectory, GeneratedFile.header ++ source.text⟩ := by
  simp [render, Traced.result_bind, hcode, GeneratedFile.render, GeneratedFile.contentOf, hsource]

theorem Task.exists_render {task : Task} {code : Code} (hcode : task.code.result = .ok code)
    (hfile : ∃ file, SourceFile.ofCode code = .ok file) (outputDirectory : String) :
    ∃ file, (task.render outputDirectory).result = .ok file := by
  obtain ⟨source, hsource⟩ := hfile
  exact ⟨_, render_of_code hcode hsource outputDirectory⟩

theorem Task.code_resource {declared : Resource} {code : Code}
    (hcode : (Task.resource declared).code.result = .ok code) :
    declared.code.result = .ok code := by
  simp only [Task.code, Traced.result_bind, Traced.result_ofExcept, bind_eq_ok] at hcode
  obtain ⟨_, -, hcode⟩ := hcode
  exact hcode

theorem Task.code_dataSource {declared : DataSource} {code : Code}
    (hcode : (Task.dataSource declared).code.result = .ok code) :
    declared.code.result = .ok code := by
  simp only [Task.code, Traced.result_bind, Traced.result_ofExcept, bind_eq_ok] at hcode
  obtain ⟨_, -, hcode⟩ := hcode
  exact hcode

/-- The registry's file shows no more of the definitions than its code. -/
theorem Task.render_registry {left right : Definitions}
    (hcode : Registry.code left = Registry.code right) (outputDirectory : String) :
    (Task.registry left).render outputDirectory = (Task.registry right).render outputDirectory := by
  simp only [Task.render, Task.code, hcode, Task.path, Task.moduleName]

theorem RunOptions.perform_rendered {options : RunOptions} {tree : Tree} {task : Task}
    {file : GeneratedFile} (hresult : (options.perform tree task).2.1.result = .ok file) :
    (task.render options.outputDirectory).result = .ok file := by
  unfold perform at hresult
  dsimp only at hresult
  split at hresult
  next failure hrender => simp at hresult
  next rendered hrender =>
    split at hresult
    · exact hresult ▸ hrender
    · obtain ⟨_, -, rfl⟩ := Result.map_eq_ok.mp hresult
      exact hrender

theorem RunOptions.performAll_rendered (options : RunOptions) (tasks : List Task) (tree : Tree)
    (hfailures : Outcome.failures (options.performAll tree tasks).2.1 = []) :
    tasks.mapM (fun task => (task.render options.outputDirectory).result) =
      .ok (Outcome.files (options.performAll tree tasks).2.1) := by
  induction tasks generalizing tree with
  | nil => rfl
  | cons task tasks ih =>
      simp only [performAll] at hfailures ⊢
      cases hresult : (options.perform tree task).2.1.result with
      | error failure => simp [Outcome.failures, hresult] at hfailures
      | ok file =>
          have hothers := ih (options.perform tree task).1 (by
            simpa [Outcome.failures, hresult] using hfailures)
          have hfile := perform_rendered hresult
          simp [Outcome.files, hresult, Except.toOption, hfile, hothers]

/-- The report of a run without failures holds what the planned tasks render. -/
theorem Definitions.run_rendered {definitions : Definitions} {options : RunOptions} {tree : Tree}
    {report : Report} (hrun : (definitions.run options tree).2.result = .ok report)
    (hfailures : report.failures = []) :
    ∃ tasks files, definitions.plan options.filter = .ok tasks ∧
      tasks.mapM (fun task => (task.render options.outputDirectory).result) = .ok files ∧
      report.files.Perm files := by
  unfold run at hrun
  cases hplan : definitions.plan options.filter with
  | error failure => simp [hplan] at hrun
  | ok tasks =>
      simp only [hplan, Except.ok.injEq] at hrun
      subst hrun
      have hnone : Outcome.failures (options.performAll tree tasks).2.1 = [] := by
        rw [← List.perm_nil, ← hfailures]
        exact (List.mergeSort_perm _ _).symm
      exact ⟨tasks, _, rfl, options.performAll_rendered tasks tree hnone, List.mergeSort_perm _ _⟩

theorem RunOptions.performAll_of_rendered {outputDirectory : String} {tasks : List Task}
    {files : List GeneratedFile} (filter : Option String)
    (hrendered : tasks.mapM (fun task => (task.render outputDirectory).result) = .ok files)
    (tree : Tree) :
    let outcomes := (performAll ⟨outputDirectory, filter, true⟩ tree tasks).2.1
    Outcome.files outcomes = files ∧ Outcome.failures outcomes = [] := by
  induction tasks generalizing files tree with
  | nil =>
      obtain rfl := pure_eq_ok.mp hrendered
      exact ⟨rfl, rfl⟩
  | cons task tasks ih =>
      simp only [List.mapM_cons, bind_eq_ok, pure_eq_ok] at hrendered
      obtain ⟨file, hfile, others, hothers, rfl⟩ := hrendered
      have hperformed : (perform ⟨outputDirectory, filter, true⟩ tree task).2.1.result =
          .ok file := by
        simp [perform, hfile]
      obtain ⟨hfiles, hfailures⟩ :=
        ih hothers (perform ⟨outputDirectory, filter, true⟩ tree task).1
      simp only [performAll]
      constructor
      · simpa [Outcome.files, hperformed, Except.toOption] using hfiles
      · simpa [Outcome.failures, hperformed] using hfailures

theorem Definitions.run_of_rendered {definitions : Definitions} {outputDirectory : String}
    {filter : Option String} {tasks : List Task} {files : List GeneratedFile}
    (hplan : definitions.plan filter = .ok tasks)
    (hrendered : tasks.mapM (fun task => (task.render outputDirectory).result) = .ok files)
    (tree : Tree) :
    ∃ report, (definitions.run ⟨outputDirectory, filter, true⟩ tree).2.result = .ok report ∧
      report.failures = [] ∧ report.files.Perm files := by
  obtain ⟨hfiles, hfailures⟩ :=
    RunOptions.performAll_of_rendered filter hrendered tree
  refine ⟨_, by rw [run]; simp only [hplan]; rfl, ?_, ?_⟩
  · rw [Outcome.report, Report.sorted, hfailures]
    exact List.mergeSort_nil
  · rw [Outcome.report, Report.sorted, hfiles]
    exact List.mergeSort_perm _ _

end ProviderForge

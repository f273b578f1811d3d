import ProviderForge.Proofs.Disk.Beside
import ProviderForge.Proofs.Run.Rendered

namespace ProviderForge

open Result

def Failure.IsRefusal (failure : Failure) : Prop :=
  ∃ path fault, failure = .writeFailed path fault

namespace Writing

def Refuses : Writing → Prop
  | cleaning failure => failure.IsRefusal
  | done result => ∀ failure, result = .error failure → failure.IsRefusal
  | _ => True

theorem refuses_done_error {failure : Failure} (hrefusal : failure.IsRefusal) :
    (done (.error failure)).Refuses := by
  rintro _ ⟨⟩
  exact hrefusal

theorem Refuses.step {writing : Writing} (hrefuses : writing.Refuses) (path content : String)
    (tree : Tree) : (writing.step path content tree).2.Refuses := by
  cases writing with
  | makingParents =>
      rw [step_makingParents]
      cases Path.parent? path with
      | none => trivial
      | some parent =>
          dsimp only
          split
          · trivial
          · rcases tree.makeDirectories parent with ⟨next, fault | _⟩
            · exact refuses_done_error ⟨_, _, rfl⟩
            · trivial
  | writingTemporary =>
      rw [step_writingTemporary]
      cases tree.write (temporaryPath path) content with
      | ok next => trivial
      | error fault => exact ⟨_, _, rfl⟩
  | replacing =>
      rw [step_replacing]
      cases tree.rename (temporaryPath path) path with
      | ok next => exact fun _ hfailure => nomatch hfailure
      | error fault => exact ⟨_, _, rfl⟩
  | cleaning failure =>
      rw [step_cleaning]
      cases tree.remove (temporaryPath path) with
      | ok next => exact refuses_done_error hrefuses
      | error fault => exact refuses_done_error hrefuses
  | done result => exact hrefuses

theorem Refuses.run {writing : Writing} (hrefuses : writing.Refuses) (path content : String)
    (tree : Tree) : (done (Writing.run path content (tree, writing)).2).Refuses := by
  induction tree, writing using step_induction path content with
  | hdone tree result => simpa using hrefuses
  | hstep tree writing ih =>
      rw [← Tree.run_step]
      exact ih (hrefuses.step path content tree)

end Writing

def Task.preview (task : Task) (outputDirectory : String) : Outcome :=
  ⟨task.moduleName, (task.render outputDirectory).result⟩

/-- What was shown has come, or the system has refused to write the file that was shown. -/
inductive Outcome.Realizes (outcome preview : Outcome) : Prop
  | same (equal : outcome = preview)
  | refused (sameTask : outcome.task = preview.task) (file : GeneratedFile)
      (wasShown : preview.result = .ok file) (failure : Failure)
      (isFailed : outcome.result = .error failure) (isRefusal : failure.IsRefusal)

structure Outcome.RealizeAll (outcomes previews : List Outcome) : Prop where
  shown : ∀ outcome ∈ outcomes, ∃ preview ∈ previews, outcome.Realizes preview
  come : ∀ preview ∈ previews, ∃ outcome ∈ outcomes, outcome.Realizes preview

namespace Outcome.RealizeAll

theorem nil : RealizeAll [] [] :=
  ⟨by simp, by simp⟩

theorem cons {outcome preview : Outcome} {outcomes previews : List Outcome}
    (hrealizes : outcome.Realizes preview) (hrealize : RealizeAll outcomes previews) :
    RealizeAll (outcome :: outcomes) (preview :: previews) := by
  constructor
  · refine List.forall_mem_cons.mpr ⟨⟨preview, List.mem_cons_self, hrealizes⟩, ?_⟩
    intro other hmem
    obtain ⟨shown, hshown, hsame⟩ := hrealize.shown other hmem
    exact ⟨shown, List.mem_cons_of_mem _ hshown, hsame⟩
  · refine List.forall_mem_cons.mpr ⟨⟨outcome, List.mem_cons_self, hrealizes⟩, ?_⟩
    intro other hmem
    obtain ⟨come, hcome, hsame⟩ := hrealize.come other hmem
    exact ⟨come, List.mem_cons_of_mem _ hcome, hsame⟩

end Outcome.RealizeAll

namespace RunOptions

end RunOptions

theorem Outcome.mem_report_files {outcomes : List Outcome} {file : GeneratedFile} :
    file ∈ (report outcomes).files ↔ ∃ outcome ∈ outcomes, outcome.result = .ok file := by
  have hresult : ∀ outcome : Outcome,
      outcome.result.toOption = some file ↔ outcome.result = .ok file := by
    intro outcome
    cases outcome.result <;> simp [Except.toOption]
  rw [report, Report.sorted, (List.mergeSort_perm _ _).mem_iff, files, List.mem_filterMap]
  simp only [hresult]

theorem Outcome.mem_report_failures {outcomes : List Outcome} {failed : TaskFailure} :
    failed ∈ (report outcomes).failures ↔
      (⟨failed.task, .error failed.failure⟩ : Outcome) ∈ outcomes := by
  rw [report, Report.sorted, (List.mergeSort_perm _ _).mem_iff, failures, List.mem_filterMap]
  constructor
  · rintro ⟨⟨task, result⟩, hmem, hfailed⟩
    cases result with
    | ok file => simp at hfailed
    | error failure =>
        obtain rfl := Option.some.inj hfailed
        exact hmem
  · intro hmem
    exact ⟨_, hmem, rfl⟩

structure Outcome.Apart (outputDirectory : String) (outcomes : List Outcome) : Prop where
  distinct : (outcomes.map (·.task)).Nodup
  path : ∀ outcome ∈ outcomes, ∀ file, outcome.result = .ok file →
    file.path = Path.join outputDirectory (outcome.task ++ ".rs")

/-- The report is the one that was shown, but for the files that the system has refused to write. -/
structure Report.Realizes (outputDirectory : String) (report preview : Report) : Prop where
  files : report.files ⊆ preview.files
  failures : preview.failures ⊆ report.failures
  written : ∀ file ∈ preview.files, file ∈ report.files ∨ ∃ failed ∈ report.failures,
    file.path = Path.join outputDirectory (failed.task ++ ".rs")
  refused : ∀ failed ∈ report.failures, ∀ file ∈ preview.files,
    file.path = Path.join outputDirectory (failed.task ++ ".rs") → failed.failure.IsRefusal
  shown : ∀ failed ∈ report.failures, failed ∈ preview.failures ∨ ∃ file ∈ preview.files,
    file.path = Path.join outputDirectory (failed.task ++ ".rs")

namespace Outcome.RealizeAll

variable {outputDirectory : String} {outcomes previews : List Outcome}

theorem files (hrealize : RealizeAll outcomes previews) :
    (report outcomes).files ⊆ (report previews).files := by
  intro file hfile
  obtain ⟨outcome, hmem, hresult⟩ := mem_report_files.mp hfile
  obtain ⟨preview, hpreview, hrealizes⟩ := hrealize.shown outcome hmem
  cases hrealizes with
  | same equal => exact mem_report_files.mpr ⟨preview, hpreview, equal ▸ hresult⟩
  | refused _ _ _ failure isFailed => simp [hresult] at isFailed

theorem failures (hrealize : RealizeAll outcomes previews) :
    (report previews).failures ⊆ (report outcomes).failures := by
  intro failed hfailed
  obtain ⟨outcome, hmem, hrealizes⟩ := hrealize.come _ (mem_report_failures.mp hfailed)
  cases hrealizes with
  | same equal => exact mem_report_failures.mpr (equal ▸ hmem)
  | refused _ file wasShown => simp at wasShown

theorem written (hrealize : RealizeAll outcomes previews)
    (hapart : Apart outputDirectory previews) : ∀ file ∈ (report previews).files,
      file ∈ (report outcomes).files ∨ ∃ failed ∈ (report outcomes).failures,
        file.path = Path.join outputDirectory (failed.task ++ ".rs") := by
  intro file hfile
  obtain ⟨preview, hpreview, hresult⟩ := mem_report_files.mp hfile
  obtain ⟨outcome, hmem, hrealizes⟩ := hrealize.come preview hpreview
  cases hrealizes with
  | same equal => exact .inl (mem_report_files.mpr ⟨outcome, hmem, equal ▸ hresult⟩)
  | refused sameTask _ _ failure isFailed =>
      refine .inr ⟨⟨outcome.task, failure⟩, mem_report_failures.mpr ?_, ?_⟩
      · rwa [← isFailed]
      · rw [hapart.path preview hpreview file hresult, sameTask]

theorem refused (hrealize : RealizeAll outcomes previews)
    (hapart : Apart outputDirectory previews) : ∀ failed ∈ (report outcomes).failures,
      ∀ file ∈ (report previews).files,
        file.path = Path.join outputDirectory (failed.task ++ ".rs") →
          failed.failure.IsRefusal := by
  intro failed hfailed file hfile hpath
  obtain ⟨preview, hpreview, hresult⟩ := mem_report_files.mp hfile
  obtain ⟨other, hother, hrealizes⟩ := hrealize.shown _ (mem_report_failures.mp hfailed)
  cases hrealizes with
  | refused _ _ _ failure isFailed isRefusal =>
      obtain rfl := Except.error.inj isFailed
      exact isRefusal
  | same equal =>
      -- one file has one task, and of one task only one outcome is shown
      rw [hapart.path preview hpreview file hresult, Path.join_inj, String.append_left_inj] at hpath
      have htask : preview.task = other.task := hpath.trans (congrArg Outcome.task equal)
      have hsame := eq_of_mem_of_nodup hapart.distinct hpreview hother htask
      rw [hsame, ← equal] at hresult
      simp at hresult

end Outcome.RealizeAll

end ProviderForge

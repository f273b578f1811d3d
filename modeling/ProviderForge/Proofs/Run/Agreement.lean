import ProviderForge.Proofs.Run.Independent
import ProviderForge.Proofs.Run.Preview

namespace ProviderForge

open Result

def TaskFailure.mapFailure (change : Failure → Failure) (failed : TaskFailure) : TaskFailure :=
  ⟨failed.task, change failed.failure⟩

/-- The outcomes are the same ones in the eyes of `view`, but for the task of the name. -/
def Outcome.AgreeBut (moduleName : String) (view : Failure → Failure)
    (outcomes others : List Outcome) : Prop :=
  (outcomes.filter (·.task ≠ moduleName)).map (mapFailure view) =
    (others.filter (·.task ≠ moduleName)).map (mapFailure view)

structure Report.AgreeBut (outputDirectory moduleName : String) (view : Failure → Failure)
    (report other : Report) : Prop where
  files : report.files.filter (·.path ≠ Path.join outputDirectory (moduleName ++ ".rs")) =
    other.files.filter (·.path ≠ Path.join outputDirectory (moduleName ++ ".rs"))
  failures : (report.failures.filter (·.task ≠ moduleName)).map (TaskFailure.mapFailure view) =
    (other.failures.filter (·.task ≠ moduleName)).map (TaskFailure.mapFailure view)

namespace Outcome

section

variable {outcome : Outcome} {file : GeneratedFile} {failure : Failure}

theorem files_cons_ok (hresult : outcome.result = .ok file) (outcomes : List Outcome) :
    files (outcome :: outcomes) = file :: files outcomes := by
  simp [files, hresult, Except.toOption]

theorem files_cons_error (hresult : outcome.result = .error failure) (outcomes : List Outcome) :
    files (outcome :: outcomes) = files outcomes := by
  simp [files, hresult, Except.toOption]

theorem failures_cons_ok (hresult : outcome.result = .ok file) (outcomes : List Outcome) :
    failures (outcome :: outcomes) = failures outcomes := by
  simp [failures, hresult]

theorem failures_cons_error (hresult : outcome.result = .error failure)
    (outcomes : List Outcome) :
    failures (outcome :: outcomes) = ⟨outcome.task, failure⟩ :: failures outcomes := by
  simp [failures, hresult]

theorem mapFailure_ok (hresult : outcome.result = .ok file) (view : Failure → Failure) :
    (outcome.mapFailure view).result = .ok file := by
  rw [mapFailure, hresult]
  rfl

theorem mapFailure_error (hresult : outcome.result = .error failure) (view : Failure → Failure) :
    (outcome.mapFailure view).result = .error (view failure) := by
  rw [mapFailure, hresult]
  rfl

end

theorem files_mapFailure (view : Failure → Failure) (outcomes : List Outcome) :
    files (outcomes.map (mapFailure view)) = files outcomes := by
  induction outcomes with
  | nil => rfl
  | cons outcome outcomes ih =>
      rw [List.map_cons]
      cases hresult : outcome.result with
      | ok file => rw [files_cons_ok (mapFailure_ok hresult view), files_cons_ok hresult, ih]
      | error failure =>
          rw [files_cons_error (mapFailure_error hresult view), files_cons_error hresult, ih]

theorem failures_mapFailure (view : Failure → Failure) (outcomes : List Outcome) :
    failures (outcomes.map (mapFailure view)) =
      (failures outcomes).map (TaskFailure.mapFailure view) := by
  induction outcomes with
  | nil => rfl
  | cons outcome outcomes ih =>
      rw [List.map_cons]
      cases hresult : outcome.result with
      | ok file => rw [failures_cons_ok (mapFailure_ok hresult view), failures_cons_ok hresult, ih]
      | error failure =>
          rw [failures_cons_error (mapFailure_error hresult view), failures_cons_error hresult,
            List.map_cons, ih]
          rfl

theorem failures_filter (keep : String → Bool) (outcomes : List Outcome) :
    (failures outcomes).filter (keep ·.task) = failures (outcomes.filter (keep ·.task)) := by
  induction outcomes with
  | nil => rfl
  | cons outcome outcomes ih =>
      cases hresult : outcome.result with
      | ok file =>
          rw [failures_cons_ok hresult, ih, List.filter_cons]
          split
          · rw [failures_cons_ok hresult]
          · rfl
      | error failure =>
          rw [failures_cons_error hresult, List.filter_cons, List.filter_cons, ih]
          split
          · rw [failures_cons_error hresult]
          · rfl

variable {outputDirectory : String} {outcomes others : List Outcome}

theorem Apart.tail {outcome : Outcome} (hapart : Apart outputDirectory (outcome :: outcomes)) :
    Apart outputDirectory outcomes where
  distinct := (List.nodup_cons.mp hapart.distinct).2
  path := fun other hmem => hapart.path other (List.mem_cons_of_mem _ hmem)

theorem Apart.files_filter (hapart : Apart outputDirectory outcomes) {keep keepPath : String → Bool}
    (hkeep : ∀ name, keepPath (Path.join outputDirectory (name ++ ".rs")) = keep name) :
    (files outcomes).filter (keepPath ·.path) = files (outcomes.filter (keep ·.task)) := by
  induction outcomes with
  | nil => rfl
  | cons outcome outcomes ih =>
      cases hresult : outcome.result with
      | error failure =>
          rw [files_cons_error hresult, ih hapart.tail, List.filter_cons]
          split
          · rw [files_cons_error hresult]
          · rfl
      | ok file =>
          have hname : keepPath file.path = keep outcome.task := by
            rw [hapart.path outcome List.mem_cons_self file hresult, hkeep]
          rw [files_cons_ok hresult, List.filter_cons, List.filter_cons, ih hapart.tail, hname]
          split
          · rw [files_cons_ok hresult]
          · rfl

theorem tasks_failures_sublist (outcomes : List Outcome) :
    ((failures outcomes).map (·.task)).Sublist (outcomes.map (·.task)) := by
  induction outcomes with
  | nil => exact .slnil
  | cons outcome outcomes ih =>
      cases hresult : outcome.result with
      | ok file =>
          rw [failures_cons_ok hresult]
          exact ih.cons _
      | error failure =>
          rw [failures_cons_error hresult]
          exact ih.cons_cons _

theorem Apart.paths_sublist (hapart : Apart outputDirectory outcomes) :
    ((files outcomes).map (·.path)).Sublist
      (outcomes.map fun outcome => Path.join outputDirectory (outcome.task ++ ".rs")) := by
  induction outcomes with
  | nil => exact .slnil
  | cons outcome outcomes ih =>
      cases hresult : outcome.result with
      | error failure =>
          rw [files_cons_error hresult]
          exact (ih hapart.tail).cons _
      | ok file =>
          rw [files_cons_ok hresult, List.map_cons, List.map_cons,
            hapart.path outcome List.mem_cons_self file hresult]
          exact (ih hapart.tail).cons_cons _

theorem Apart.nodup_paths (hapart : Apart outputDirectory outcomes) :
    ((files outcomes).map (·.path)).Nodup := by
  refine List.Nodup.sublist hapart.paths_sublist ?_
  rw [List.Nodup, List.pairwise_map]
  refine (List.pairwise_map.mp hapart.distinct).imp fun hdifferent hpath => hdifferent ?_
  rwa [Path.join_inj, String.append_left_inj] at hpath

end Outcome

/-- Sorting by names, of which no two are the same, shows nothing of the entries left out. -/
theorem map_filter_sortedBy {nameOf : α → String} {change : α → α} {keep : α → Bool}
    {entries others : List α} (hchange : ∀ entry, nameOf (change entry) = nameOf entry)
    (hnodup : (entries.map nameOf).Nodup)
    (hsame : (entries.filter keep).map change = (others.filter keep).map change) :
    let sorted := fun (listed : List α) =>
      listed.mergeSort fun left right => decide (nameOf left ≤ nameOf right)
    ((sorted entries).filter keep).map change = ((sorted others).filter keep).map change := by
  intro sorted
  have hperm : ∀ listed, (((sorted listed).filter keep).map change).Perm
      ((listed.filter keep).map change) :=
    fun listed => ((List.mergeSort_perm _ _).filter keep).map change
  have hsorted : ∀ listed, (((sorted listed).filter keep).map change).Pairwise
      fun left right => nameOf left ≤ nameOf right := by
    intro listed
    rw [List.pairwise_map]
    simp only [hchange]
    exact (pairwise_sortedBy nameOf listed).filter keep
  have hnames : ((((sorted entries).filter keep).map change).map nameOf).Nodup := by
    have hname : nameOf ∘ change = nameOf := funext hchange
    rw [((hperm entries).map nameOf).nodup_iff, List.map_map, hname]
    exact hnodup.sublist (List.filter_sublist.map nameOf)
  apply eq_of_sortedBy hnames (hsorted entries) (hsorted others)
  exact (hperm entries).trans (hsame ▸ (hperm others).symm)

namespace Outcome

variable {outputDirectory moduleName : String} {view : Failure → Failure}
  {outcomes others : List Outcome}

/-- Outcomes of which the same ones are kept are reported alike as far as they are kept. -/
theorem report_filter (keep keepPath : String → Bool)
    (hkeep : ∀ name, keepPath (Path.join outputDirectory (name ++ ".rs")) = keep name)
    (hsame : (outcomes.filter (keep ·.task)).map (mapFailure view) =
      (others.filter (keep ·.task)).map (mapFailure view))
    (hapart : Apart outputDirectory outcomes) (hother : Apart outputDirectory others) :
    (report outcomes).files.filter (keepPath ·.path) =
        (report others).files.filter (keepPath ·.path) ∧
      ((report outcomes).failures.filter (keep ·.task)).map (TaskFailure.mapFailure view) =
        ((report others).failures.filter (keep ·.task)).map (TaskFailure.mapFailure view) := by
  constructor
  · have hfiles : ((files outcomes).filter (keepPath ·.path)).map (fun file => file) =
        ((files others).filter (keepPath ·.path)).map (fun file => file) := by
      rw [hapart.files_filter hkeep, hother.files_filter hkeep, ← files_mapFailure view, hsame,
        files_mapFailure view]
    have hsorted := map_filter_sortedBy (fun _ => rfl) hapart.nodup_paths hfiles
    simp only [List.map_id'] at hsorted
    exact hsorted
  · have hfailures : ((failures outcomes).filter (keep ·.task)).map (TaskFailure.mapFailure view) =
        ((failures others).filter (keep ·.task)).map (TaskFailure.mapFailure view) := by
      rw [failures_filter, failures_filter, ← failures_mapFailure, ← failures_mapFailure, hsame]
    have htasks := hapart.distinct.sublist (tasks_failures_sublist outcomes)
    exact map_filter_sortedBy (fun _ => rfl) htasks hfailures

theorem AgreeBut.report (hagree : AgreeBut moduleName view outcomes others)
    (hapart : Apart outputDirectory outcomes) (hother : Apart outputDirectory others) :
    (report outcomes).AgreeBut outputDirectory moduleName view (report others) := by
  obtain ⟨hfiles, hfailures⟩ := report_filter (fun name => decide (name ≠ moduleName))
    (fun path => decide (path ≠ Path.join outputDirectory (moduleName ++ ".rs")))
    (fun name => by simp only [ne_eq, Path.join_inj, String.append_left_inj]) hagree hapart hother
  exact ⟨hfiles, hfailures⟩

end Outcome

end ProviderForge

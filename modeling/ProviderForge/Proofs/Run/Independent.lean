import ProviderForge.Proofs.Run.Session

/-!
Tasks do not depend on one another. Whatever turns they get, each ends as it would end alone, and
the tree behind them is the one before them with what each task alone makes of it.
-/

namespace ProviderForge

open Result ProviderForge.Tree

/-- The failure without what the system says where the output directory cannot be made. -/
def Failure.withoutFault (outputDirectory : String) : Failure → Failure
  | .writeFailed path fault =>
      .writeFailed path (if path = Path.outer outputDirectory then .notFound else fault)
  | failure => failure

def Outcome.mapFailure (change : Failure → Failure) (outcome : Outcome) : Outcome :=
  { outcome with result := outcome.result.mapError change }

def Outcome.withoutFault (outputDirectory : String) (outcome : Outcome) : Outcome :=
  outcome.mapFailure (Failure.withoutFault outputDirectory)

theorem Outcome.withoutFault_barred (outputDirectory name : String) (fault : FileFault) :
    withoutFault outputDirectory
        ⟨name, .error (.writeFailed (Path.outer outputDirectory) fault)⟩ =
      ⟨name, .error (.writeFailed (Path.outer outputDirectory) .notFound)⟩ := by
  have hfault : Failure.withoutFault outputDirectory
      (.writeFailed (Path.outer outputDirectory) fault) =
        .writeFailed (Path.outer outputDirectory) .notFound := by
    rw [Failure.withoutFault, if_pos rfl]
  exact congrArg (fun failure => (⟨name, .error failure⟩ : Outcome)) hfault

/-- The tree and the outcome of the task without other tasks. -/
def Task.alone (task : Task) (outputDirectory : String) (tree : Tree) : Tree × Outcome :=
  (Job.ofTask outputDirectory task).finish tree

theorem Tree.moduleName_eq_of_own {whole place : Tree.Place} {task other : Task}
    (hown : Own whole task.moduleName place) (hother : Own whole other.moduleName place) :
    task.moduleName = other.moduleName := by
  have hname : ∀ left right : String, whole ++ [left] = whole ++ [right] → left = right :=
    fun _ _ heq => List.singleton_inj.mp (List.append_cancel_left heq)
  rcases hown with hfile | htemporary
  · rcases hother with hotherFile | hotherTemporary
    · exact (String.append_left_inj ".rs").mp (hname _ _ (hfile.symm.trans hotherFile))
    · exact absurd (hname _ _ (hfile.symm.trans hotherTemporary)) Task.file_ne_temporary
  · rcases hother with hotherFile | hotherTemporary
    · exact absurd (hname _ _ (hotherFile.symm.trans htemporary)) Task.file_ne_temporary
    · exact (String.append_left_inj ".rs.tmp").mp
        (hname _ _ (htemporary.symm.trans hotherTemporary))

namespace Job

structure Carries (outputDirectory : String) (task : Task) (job : Job) : Prop where
  name : job.task = task.moduleName
  file : job.rendered = (task.render outputDirectory).result

theorem carries_ofTask (outputDirectory : String) (task : Task) :
    (ofTask outputDirectory task).Carries outputDirectory task :=
  ⟨rfl, rfl⟩

variable {outputDirectory : String} {task : Task} {job : Job} {whole : Tree.Place}
  {tree other : Tree}

theorem Carries.step (hcarries : job.Carries outputDirectory task) (tree : Tree) :
    (job.step tree).2.Carries outputDirectory task := by
  unfold Job.step
  split
  · exact hcarries
  · exact ⟨hcarries.name, hcarries.file⟩

theorem Carries.path (hcarries : job.Carries outputDirectory task) {file : GeneratedFile}
    (hfile : job.rendered = .ok file) :
    Path.IsStem task.moduleName ∧
      file.path = Path.join outputDirectory (task.moduleName ++ ".rs") := by
  obtain ⟨hnamed, hpath⟩ := Task.path_of_render (hcarries.file.symm.trans hfile)
  exact ⟨Task.isStem_moduleName hnamed, hpath⟩

theorem Carries.step_touches (hcarries : job.Carries outputDirectory task)
    (hready : tree.Ready outputDirectory whole) :
    Touches (Own whole task.moduleName) tree (job.step tree).1 := by
  cases hrendered : job.rendered with
  | error failure =>
      simp only [Job.step, hrendered]
      exact .refl _ tree
  | ok file =>
      obtain ⟨hstem, hpath⟩ := hcarries.path hrendered
      simp only [Job.step, hrendered, hpath]
      exact Tree.step_touches hready hstem file.content job.writing

theorem Carries.finish_alike (hcarries : job.Carries outputDirectory task)
    (hready : tree.Ready outputDirectory whole) (hother : other.Ready outputDirectory whole)
    (hagree : AgreeOn (Own whole task.moduleName) tree other) :
    (job.finish tree).2 = (job.finish other).2 ∧
      AgreeOn (Own whole task.moduleName) (job.finish tree).1 (job.finish other).1 := by
  cases hrendered : job.rendered with
  | error failure =>
      simp only [Job.finish, hrendered]
      exact ⟨trivial, hagree⟩
  | ok file =>
      obtain ⟨hstem, hpath⟩ := hcarries.path hrendered
      obtain ⟨hresult, hplaces⟩ :=
        Writing.run_alike hready hother hstem hagree file.content job.writing
      simp only [Job.finish, hrendered, hpath]
      exact ⟨by rw [hresult], hplaces⟩

theorem outcome?_ofTask {file : GeneratedFile}
    (hfile : (task.render outputDirectory).result = .ok file) :
    (ofTask outputDirectory task).outcome? = none := by
  simp [outcome?, ofTask, hfile]

/-- The first step makes the output directory. -/
theorem step_ofTask {file : GeneratedFile}
    (hfile : (task.render outputDirectory).result = .ok file) (tree : Tree) :
    (ofTask outputDirectory task).step tree =
      match tree.prepare outputDirectory with
      | (next, .ok ()) =>
          (next, { ofTask outputDirectory task with writing := .writingTemporary })
      | (next, .error fault) =>
          (next, { ofTask outputDirectory task with
            writing := .done (.error (.writeFailed (Path.outer outputDirectory) fault)) }) := by
  obtain ⟨hstem, hpath⟩ := (carries_ofTask outputDirectory task).path hfile
  have hstep := @prepare_step outputDirectory task.moduleName tree hstem file.content
  rw [← hpath] at hstep
  have hjob : (ofTask outputDirectory task).step tree =
      ((Writing.makingParents.step file.path file.content tree).1,
        { ofTask outputDirectory task with
          writing := (Writing.makingParents.step file.path file.content tree).2 }) := by
    simp only [Job.step, ofTask, hfile]
  rw [hjob, hstep]
  rcases tree.prepare outputDirectory with ⟨next, fault | _⟩
  · rfl
  · rfl

end Job

namespace Task

variable {outputDirectory : String} {task : Task} {tree base : Tree}

theorem alone_of_barred {file : GeneratedFile} {fault : FileFault}
    (hfile : (task.render outputDirectory).result = .ok file)
    (hprepare : tree.prepare outputDirectory = (base, .error fault)) :
    task.alone outputDirectory tree =
      (base, ⟨task.moduleName, .error (.writeFailed (Path.outer outputDirectory) fault)⟩) := by
  unfold alone
  rw [← Job.finish_step, Job.step_ofTask hfile, hprepare]
  simp [Job.finish, Job.ofTask, hfile, Except.map]

end Task

/-- The job ends as the task ends alone, if nobody else has a turn before that. -/
structure Job.Apart (outputDirectory : String) (whole : Tree.Place) (base : Tree) (task : Task)
    (tree : Tree) (job : Job) : Prop where
  carries : job.Carries outputDirectory task
  outcome : (job.finish tree).2 = (task.alone outputDirectory base).2
  places : AgreeOn (Own whole task.moduleName) (job.finish tree).1
    (task.alone outputDirectory base).1

namespace Job

variable {outputDirectory : String} {whole : Tree.Place} {base tree later : Tree} {task : Task}
  {job : Job}

theorem Apart.step (hapart : job.Apart outputDirectory whole base task tree) :
    (job.step tree).2.Apart outputDirectory whole base task (job.step tree).1 := by
  refine ⟨hapart.carries.step tree, ?_, ?_⟩
  · rw [finish_step, hapart.outcome]
  · rw [finish_step]
    exact hapart.places

theorem Apart.of_touches {places : Tree.Place → Prop}
    (hapart : job.Apart outputDirectory whole base task tree)
    (hready : tree.Ready outputDirectory whole) (htouches : Touches places tree later)
    (hother : ∀ place, Own whole task.moduleName place → ¬ places place) :
    job.Apart outputDirectory whole base task later := by
  have hagree : AgreeOn (Own whole task.moduleName) later tree :=
    fun place hown => htouches.frame place (hother place hown)
  obtain ⟨houtcome, hplaces⟩ :=
    hapart.carries.finish_alike (hready.of_keeps htouches.keeps) hready hagree
  exact ⟨hapart.carries, houtcome.trans hapart.outcome, hplaces.trans hapart.places⟩

end Job

/-- The session has come from `base` without a job having met the work of another. -/
structure Session.Independent (outputDirectory : String) (whole : Tree.Place) (base : Tree)
    (tasks : List Task) (session : Session) : Prop where
  ready : session.tree.Ready outputDirectory whole
  keeps : KeepsDirectories base session.tree
  length : session.jobs.length = tasks.length
  apart : ∀ (turn : Nat) (task : Task) (job : Job), tasks[turn]? = some task →
    session.jobs[turn]? = some job → job.Apart outputDirectory whole base task session.tree
  elsewhere : ∀ place, (∀ task ∈ tasks, ¬ Own whole task.moduleName place) →
    session.tree.get? place = base.get? place

namespace Session

variable {outputDirectory : String} {whole : Tree.Place} {tree base : Tree} {tasks : List Task}
  {session : Session}

theorem exists_task {turn : Nat} {job : Job} (hlength : session.jobs.length = tasks.length)
    (hjob : session.jobs[turn]? = some job) : ∃ task, tasks[turn]? = some task := by
  have hturn := (List.getElem?_eq_some_iff.mp hjob).1
  exact ⟨tasks[turn], List.getElem?_eq_getElem (hlength ▸ hturn)⟩

theorem Independent.advance
    (hindependent : session.Independent outputDirectory whole base tasks)
    (hdistinct : (tasks.map (·.moduleName)).Nodup) (turn : Nat) :
    (session.advance turn).Independent outputDirectory whole base tasks := by
  cases hjob : session.jobs[turn]? with
  | none => rwa [advance_of_none hjob]
  | some job =>
      obtain ⟨task, htask⟩ := exists_task hindependent.length hjob
      have hapart := hindependent.apart turn task job htask hjob
      have htouches := hapart.carries.step_touches hindependent.ready
      rw [← tree_advance hjob] at htouches
      refine ⟨hindependent.ready.of_keeps htouches.keeps,
        hindependent.keeps.trans htouches.keeps,
        (length_advance session turn).trans hindependent.length, ?_, ?_⟩
      · intro other otherTask otherJob hotherTask hotherJob
        rcases jobs_advance hjob hotherJob with ⟨rfl, rfl⟩ | ⟨hne, hbefore⟩
        · obtain rfl := Option.some.inj (htask.symm.trans hotherTask)
          rw [tree_advance hjob]
          exact hapart.step
        · apply (hindependent.apart other otherTask otherJob hotherTask hbefore).of_touches
            hindependent.ready htouches
          intro place hown howned
          -- one place for two tasks, and so one name for two turns
          have hname := moduleName_eq_of_own howned hown
          have hmap : (tasks.map (·.moduleName))[turn]? = (tasks.map (·.moduleName))[other]? := by
            rw [List.getElem?_map, List.getElem?_map, htask, hotherTask, Option.map_some,
              Option.map_some, hname]
          have hturn : turn < (tasks.map (·.moduleName)).length := by
            rw [List.length_map]
            exact (List.getElem?_eq_some_iff.mp htask).1
          exact hne ((List.getElem?_inj hturn hdistinct).mp hmap)
      · intro place hplace
        rw [htouches.frame place (hplace task (List.mem_of_getElem? htask))]
        exact hindependent.elsewhere place hplace

theorem EndsAs.outcome {outcomes : List Outcome} (hends : session.EndsAs outcomes) {turn : Nat}
    {job : Job} (hjob : session.jobs[turn]? = some job) :
    ∃ outcome, outcomes[turn]? = some outcome ∧ job.outcome? = some outcome := by
  have hturn := congrArg (fun found : List (Option Outcome) => found[turn]?) hends
  simp only [List.getElem?_map, hjob, Option.map_some] at hturn
  cases houtcome : outcomes[turn]? with
  | none => simp [houtcome] at hturn
  | some outcome => exact ⟨outcome, rfl, by simpa [houtcome] using hturn⟩

theorem EndsAs.ended {outcomes : List Outcome} (hends : session.EndsAs outcomes) :
    ∀ job ∈ session.jobs, ∃ outcome, job.outcome? = some outcome := by
  intro job hmem
  obtain ⟨turn, hjob⟩ := List.getElem?_of_mem hmem
  obtain ⟨outcome, -, houtcome⟩ := hends.outcome hjob
  exact ⟨outcome, houtcome⟩

theorem EndsAs.withoutFault {outcomes : List Outcome} (hends : session.EndsAs outcomes)
    (hlength : session.jobs.length = tasks.length)
    (halone : ∀ (turn : Nat) (task : Task) (job : Job), tasks[turn]? = some task →
      session.jobs[turn]? = some job → (job.finish session.tree).2.withoutFault outputDirectory =
        (task.alone outputDirectory tree).2.withoutFault outputDirectory) :
    outcomes.map (Outcome.withoutFault outputDirectory) =
      tasks.map fun task => (task.alone outputDirectory tree).2.withoutFault outputDirectory := by
  have hmap := congrArg List.length hends
  rw [List.length_map, List.length_map] at hmap
  apply List.ext_getElem?
  intro turn
  rw [List.getElem?_map, List.getElem?_map]
  cases hjob : session.jobs[turn]? with
  | none =>
      have hturn := List.getElem?_eq_none_iff.mp hjob
      rw [List.getElem?_eq_none_iff.mpr (hmap ▸ hturn),
        List.getElem?_eq_none_iff.mpr (hlength ▸ hturn)]
      rfl
  | some job =>
      obtain ⟨task, htask⟩ := exists_task hlength hjob
      obtain ⟨outcome, hin, houtcome⟩ := hends.outcome hjob
      have hsame := halone turn task job htask hjob
      rw [Job.finish_of_outcome? houtcome] at hsame
      rw [hin, htask, Option.map_some, Option.map_some, hsame]

end Session

/-- The job has not begun, or it has failed because its directory cannot be made; what could be made
on the way is in `base`. -/
inductive Job.Barred (outputDirectory : String) (base : Tree) (task : Task) (tree : Tree) :
    Job → Prop
  | waiting : Barred outputDirectory base task tree (ofTask outputDirectory task)
  | failed (file : GeneratedFile) (isRendered : (task.render outputDirectory).result = .ok file)
      (fault : FileFault) (isBehind : tree = base) : Barred outputDirectory base task tree
        { ofTask outputDirectory task with
          writing := .done (.error (.writeFailed (Path.outer outputDirectory) fault)) }

/-- Every attempt to make the output directory fails, and leaves `base` behind. -/
structure Session.Barred (outputDirectory : String) (base : Tree) (tasks : List Task)
    (session : Session) : Prop where
  prepare : ∃ fault, session.tree.prepare outputDirectory = (base, .error fault)
  length : session.jobs.length = tasks.length
  barred : ∀ (turn : Nat) (task : Task) (job : Job), tasks[turn]? = some task →
    session.jobs[turn]? = some job → job.Barred outputDirectory base task session.tree

namespace Job.Barred

variable {outputDirectory : String} {task : Task} {job : Job} {tree base : Tree}
  {fault : FileFault}

theorem of_base (hbarred : job.Barred outputDirectory base task tree) :
    job.Barred outputDirectory base task base := by
  cases hbarred with
  | waiting => exact .waiting
  | failed file isRendered fault isBehind => exact .failed file isRendered fault rfl

theorem step (hbarred : job.Barred outputDirectory base task tree)
    (hprepare : tree.prepare outputDirectory = (base, .error fault)) :
    ((job.step tree).1 = tree ∨ (job.step tree).1 = base) ∧
      (job.step tree).2.Barred outputDirectory base task (job.step tree).1 := by
  cases hbarred with
  | waiting =>
      cases hrender : (task.render outputDirectory).result with
      | error failure =>
          have hstep : (ofTask outputDirectory task).step tree =
              (tree, ofTask outputDirectory task) := by
            simp [Job.step, ofTask, hrender]
          rw [hstep]
          exact ⟨.inl rfl, .waiting⟩
      | ok file =>
          rw [step_ofTask hrender, hprepare]
          exact ⟨.inr rfl, .failed file hrender fault rfl⟩
  | failed file isRendered other isBehind =>
      simp only [Job.step, ofTask, isRendered]
      refine ⟨.inl rfl, ?_⟩
      rw [← isRendered]
      exact .failed file isRendered other isBehind

theorem finish (hbarred : job.Barred outputDirectory base task tree)
    (hprepare : tree.prepare outputDirectory = (base, .error fault)) :
    (job.finish tree).2.withoutFault outputDirectory =
      (task.alone outputDirectory tree).2.withoutFault outputDirectory := by
  cases hbarred with
  | waiting => rfl
  | failed file isRendered other =>
      have hfinish : Job.finish tree { ofTask outputDirectory task with
          writing := .done (.error (.writeFailed (Path.outer outputDirectory) other)) } =
          (tree, ⟨task.moduleName, .error (.writeFailed (Path.outer outputDirectory) other)⟩) := by
        simp [Job.finish, ofTask, isRendered, Except.map]
      rw [Task.alone_of_barred isRendered hprepare, hfinish, Outcome.withoutFault_barred,
        Outcome.withoutFault_barred]

theorem behind {file : GeneratedFile} {outcome : Outcome}
    (hbarred : job.Barred outputDirectory base task tree)
    (hrender : (task.render outputDirectory).result = .ok file)
    (hended : job.outcome? = some outcome) : tree = base := by
  cases hbarred with
  | waiting => simp [outcome?_ofTask hrender] at hended
  | failed _ _ _ isBehind => exact isBehind

end Job.Barred

namespace Task

variable {outputDirectory : String} {tree base : Tree} {fault other : FileFault}

end Task

namespace Session

variable {outputDirectory : String} {whole : Tree.Place} {tree base : Tree} {tasks : List Task}
  {session : Session}

theorem Barred.advance (hbarred : session.Barred outputDirectory base tasks) (turn : Nat) :
    (session.advance turn).Barred outputDirectory base tasks := by
  cases hjob : session.jobs[turn]? with
  | none => rwa [advance_of_none hjob]
  | some job =>
      obtain ⟨task, htask⟩ := exists_task hbarred.length hjob
      obtain ⟨fault, hprepare⟩ := hbarred.prepare
      obtain ⟨hnext, hstep⟩ := (hbarred.barred turn task job htask hjob).step hprepare
      rw [← tree_advance hjob] at hnext hstep
      refine ⟨?_, (length_advance session turn).trans hbarred.length, ?_⟩
      · rcases hnext with hsame | hbase
        · rw [hsame]
          exact ⟨fault, hprepare⟩
        · rw [hbase]
          exact prepare_error_again hprepare
      · intro other otherTask otherJob hotherTask hotherJob
        rcases jobs_advance hjob hotherJob with ⟨rfl, rfl⟩ | ⟨-, hbefore⟩
        · obtain rfl := Option.some.inj (htask.symm.trans hotherTask)
          exact hstep
        · have hother := hbarred.barred other otherTask otherJob hotherTask hbefore
          rcases hnext with hsame | hbase
          · rwa [hsame]
          · rw [hbase]
            exact hother.of_base

section

variable {task : Task} {file : GeneratedFile} {schedule : List Nat} {outcomes : List Outcome}

end

end Session

end ProviderForge

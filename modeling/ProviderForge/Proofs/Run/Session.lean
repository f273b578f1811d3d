import ProviderForge.Proofs.Disk.Beside
import ProviderForge.Proofs.Run.Rendered

/-!
Tasks that are carried out at the same time: they share a tree, and whoever has the turn takes one
step of writing its file. Carrying them out one after another is one way to give the turns.
-/

namespace ProviderForge

/-- A task beside others: what it has to write, and how far it has come. Making the parents is one
step, and so are writing the temporary file, replacing the file and removing the temporary one. -/
structure Job where
  task : String
  rendered : Except Failure GeneratedFile
  writing : Writing := .makingParents

namespace Job

def ofTask (outputDirectory : String) (task : Task) : Job where
  task := task.moduleName
  rendered := (task.render outputDirectory).result

def step (tree : Tree) (job : Job) : Tree × Job :=
  match job.rendered with
  | .error _ => (tree, job)
  | .ok file =>
      let (next, writing) := job.writing.step file.path file.content tree
      (next, { job with writing })

def outcome? (job : Job) : Option Outcome :=
  match job.rendered, job.writing with
  | .error failure, _ => some ⟨job.task, .error failure⟩
  | .ok file, .done result => some ⟨job.task, result.map fun _ => file⟩
  | .ok _, _ => none

/-- The tree and the outcome when from now on nobody else has a turn. -/
def finish (tree : Tree) (job : Job) : Tree × Outcome :=
  match job.rendered with
  | .error failure => (tree, ⟨job.task, .error failure⟩)
  | .ok file =>
      let (last, result) := Writing.run file.path file.content (tree, job.writing)
      (last, ⟨job.task, result.map fun _ => file⟩)

def turns (job : Job) : Nat :=
  match job.rendered with
  | .error _ => 0
  | .ok _ => job.writing.turns

end Job

structure Session where
  tree : Tree
  jobs : List Job

namespace Session

def start (outputDirectory : String) (tree : Tree) (tasks : List Task) : Session :=
  ⟨tree, tasks.map (Job.ofTask outputDirectory)⟩

def advance (session : Session) (turn : Nat) : Session :=
  match session.jobs[turn]? with
  | none => session
  | some job =>
      let (tree, next) := job.step session.tree
      ⟨tree, session.jobs.set turn next⟩

def follow (session : Session) (schedule : List Nat) : Session :=
  schedule.foldl advance session

def EndsAs (session : Session) (outcomes : List Outcome) : Prop :=
  session.jobs.map Job.outcome? = outcomes.map some

end Session

namespace Job

theorem finish_step (tree : Tree) (job : Job) :
    (job.step tree).2.finish (job.step tree).1 = job.finish tree := by
  cases hrendered : job.rendered with
  | error failure => simp [step, hrendered]
  | ok file =>
      simp only [step, finish, hrendered]
      rw [Tree.run_step]

theorem turns_step (tree : Tree) (job : Job) : (job.step tree).2.turns ≤ job.turns - 1 := by
  cases hrendered : job.rendered with
  | error failure => simp [step, turns, hrendered]
  | ok file =>
      simp only [step, turns, hrendered]
      exact Writing.turns_step file.path file.content tree job.writing

theorem finish_of_outcome? {job : Job} {outcome : Outcome} (hended : job.outcome? = some outcome)
    (tree : Tree) : job.finish tree = (tree, outcome) := by
  unfold outcome? at hended
  split at hended
  next failure hrendered => simp_all [finish]
  next file result hrendered hresult => simp_all [finish]
  next => simp at hended

end Job

namespace Session

theorem advance_of_some {session : Session} {turn : Nat} {job : Job}
    (hjob : session.jobs[turn]? = some job) :
    session.advance turn =
      ⟨(job.step session.tree).1, session.jobs.set turn (job.step session.tree).2⟩ := by
  simp [advance, hjob]

theorem advance_of_none {session : Session} {turn : Nat} (hjob : session.jobs[turn]? = none) :
    session.advance turn = session := by
  simp [advance, hjob]

theorem tree_advance {session : Session} {turn : Nat} {job : Job}
    (hjob : session.jobs[turn]? = some job) :
    (session.advance turn).tree = (job.step session.tree).1 := by
  rw [advance_of_some hjob]

theorem jobs_advance {session : Session} {turn other : Nat} {job next : Job}
    (hjob : session.jobs[turn]? = some job)
    (hnext : (session.advance turn).jobs[other]? = some next) :
    (turn = other ∧ next = (job.step session.tree).2) ∨
      (turn ≠ other ∧ session.jobs[other]? = some next) := by
  rw [advance_of_some hjob] at hnext
  by_cases heq : turn = other
  · subst heq
    rw [List.getElem?_set_self (List.getElem?_eq_some_iff.mp hjob).1] at hnext
    exact .inl ⟨rfl, (Option.some.inj hnext).symm⟩
  · rw [List.getElem?_set_ne heq] at hnext
    exact .inr ⟨heq, hnext⟩

theorem length_advance (session : Session) (turn : Nat) :
    (session.advance turn).jobs.length = session.jobs.length := by
  cases hjob : session.jobs[turn]? with
  | none => rw [advance_of_none hjob]
  | some job => rw [advance_of_some hjob, List.length_set]

end Session

end ProviderForge

import ProviderForge.Disk.Tree

namespace ProviderForge

def temporaryPath (path : String) : String :=
  Path.withExtension path "rs.tmp"

/-- How far writing a file has come. After a failure the temporary file is removed. -/
inductive Writing
  | makingParents
  | writingTemporary
  | replacing
  | cleaning (failure : Failure)
  | done (result : Except Failure Unit)

namespace Writing

def step (path content : String) (tree : Tree) : Writing → Tree × Writing
  | makingParents =>
      match Path.parent? path with
      | some parent =>
          if parent.isEmpty then (tree, writingTemporary)
          else
            match tree.makeDirectories parent with
            | (next, .ok ()) => (next, writingTemporary)
            | (next, .error fault) => (next, done (.error (.writeFailed parent fault)))
      | none => (tree, writingTemporary)
  | writingTemporary =>
      match tree.write (temporaryPath path) content with
      | .ok next => (next, replacing)
      | .error fault => (tree, cleaning (.writeFailed (temporaryPath path) fault))
  | replacing =>
      match tree.rename (temporaryPath path) path with
      | .ok next => (next, done (.ok ()))
      | .error fault => (tree, cleaning (.writeFailed path fault))
  | cleaning failure =>
      match tree.remove (temporaryPath path) with
      | .ok next => (next, done (.error failure))
      | .error _ => (tree, done (.error failure))
  | done result => (tree, done result)

/-- How many steps are still to come at most. -/
def turns : Writing → Nat
  | makingParents => 4
  | writingTemporary => 3
  | replacing => 2
  | cleaning _ => 1
  | done _ => 0

theorem turns_step (path content : String) (tree : Tree) (writing : Writing) :
    (writing.step path content tree).2.turns ≤ writing.turns - 1 := by
  cases writing with
  | makingParents =>
      simp only [step]
      cases Path.parent? path with
      | none => simp [turns]
      | some parent =>
          dsimp only
          split
          · simp [turns]
          · split <;> simp [turns]
  | writingTemporary => simp only [step]; split <;> simp [turns]
  | replacing => simp only [step]; split <;> simp [turns]
  | cleaning failure => simp only [step]; split <;> simp [turns]
  | done result => exact Nat.le_refl 0

def run (path content : String) (state : Tree × Writing) : Tree × Except Failure Unit :=
  match _hwriting : state.2 with
  | done result => (state.1, result)
  | makingParents | writingTemporary | replacing | cleaning _ =>
      run path content (state.2.step path content state.1)
termination_by state.2.turns
decreasing_by
  all_goals
    have hstep := turns_step path content state.1 state.2
    rw [_hwriting] at hstep ⊢
    simp only [turns] at hstep ⊢
    omega

end Writing

/-- Writes the file as a whole, or leaves what was there. -/
def Tree.writeAtomic (tree : Tree) (path content : String) : Tree × Except Failure Unit :=
  Writing.run path content (tree, .makingParents)

end ProviderForge

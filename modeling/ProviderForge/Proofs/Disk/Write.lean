import ProviderForge.Proofs.Disk.Tree

namespace ProviderForge.Tree

open Result

theorem makeDirectory_ok {tree next : Tree} {path : String}
    (hmake : tree.makeDirectory path = .ok next) :
    ∃ place, tree.Leads path place ∧ tree.get? place = none ∧
      next = tree.insert place .directory := by
  simp only [makeDirectory, bind_eq_ok] at hmake
  obtain ⟨found, htarget, hmake⟩ := hmake
  cases found with
  | existing => simp at hmake
  | named directory name =>
      rw [bind_eq_ok] at hmake
      obtain ⟨place, hfollow, hmake⟩ := hmake
      split at hmake
      · simp at hmake
      next hnone =>
        exact ⟨place, ⟨directory, name, htarget, hfollow⟩, hnone, (pure_eq_ok.mp hmake).symm⟩

theorem write_ok {tree next : Tree} {path content : String}
    (hwrite : tree.write path content = .ok next) :
    ∃ place, tree.Leads path place ∧ tree.get? place ≠ some .directory ∧
      Path.endsInSlash path = false ∧ next = tree.insert place (.file content) := by
  simp only [write, bind_eq_ok] at hwrite
  obtain ⟨found, htarget, hwrite⟩ := hwrite
  cases found with
  | existing => simp at hwrite
  | named directory name =>
      simp only at hwrite
      split at hwrite
      · simp at hwrite
      next hslash =>
        rw [bind_eq_ok] at hwrite
        obtain ⟨place, hfollow, hwrite⟩ := hwrite
        split at hwrite
        · simp at hwrite
        next hfile =>
          exact ⟨place, ⟨directory, name, htarget, hfollow⟩, hfile, by simpa using hslash,
            (pure_eq_ok.mp hwrite).symm⟩

theorem remove_ok {tree next : Tree} {path : String} (hremove : tree.remove path = .ok next) :
    ∃ place content, tree.Leads path place ∧ tree.get? place = some (.file content) ∧
      next = tree.erase place := by
  simp only [remove, bind_eq_ok] at hremove
  obtain ⟨found, htarget, hremove⟩ := hremove
  cases found with
  | existing => simp at hremove
  | named directory name =>
      rw [bind_eq_ok] at hremove
      obtain ⟨place, hfollow, hremove⟩ := hremove
      split at hremove
      · simp at hremove
      · simp at hremove
      next content hfile =>
        split at hremove
        · simp at hremove
        · exact ⟨place, content, ⟨directory, name, htarget, hfollow⟩, hfile,
            (pure_eq_ok.mp hremove).symm⟩

theorem remove_of_leads {tree : Tree} {path content : String} {place : Place}
    (hleads : tree.Leads path place) (hfile : tree.get? place = some (.file content))
    (hslash : Path.endsInSlash path = false) : tree.remove path = .ok (tree.erase place) := by
  obtain ⟨directory, name, htarget, hfollow⟩ := hleads
  simp [remove, htarget, hfollow, hfile, hslash]

theorem rename_ok {tree next : Tree} {source path : String}
    (hrename : tree.rename source path = .ok next) :
    ∃ origin place content, tree.Leads source origin ∧ tree.Leads path place ∧
      tree.get? origin = some (.file content) ∧ tree.get? place ≠ some .directory ∧
      Path.endsInSlash path = false ∧
      next = if place == origin then tree
        else (tree.erase origin).insert place (.file content) := by
  simp only [rename, bind_eq_ok] at hrename
  obtain ⟨sourceTarget, hsource, pathTarget, htarget, hrename⟩ := hrename
  cases sourceTarget with
  | existing => simp at hrename
  | named sourceDirectory sourceName =>
      cases pathTarget with
      | existing => simp at hrename
      | named directory name =>
          rw [bind_eq_ok] at hrename
          obtain ⟨origin, hfrom, hrename⟩ := hrename
          split at hrename
          next content hfile =>
            rw [bind_eq_ok] at hrename
            obtain ⟨place, hfollow, hrename⟩ := hrename
            split at hrename
            · simp at hrename
            next hslash =>
              split at hrename
              · simp at hrename
              next hplace =>
                refine ⟨origin, place, content, ⟨_, _, hsource, hfrom⟩, ⟨_, _, htarget, hfollow⟩,
                  hfile, hplace, by simpa using hslash, ?_⟩
                split at hrename <;> simp_all
          · simp at hrename
          · simp at hrename

def OnTheWay (tree : Tree) (names : List String) (place : Place) : Prop :=
  ∃ front, front <+: names ∧ tree.directoryAt front = .ok place

theorem OnTheWay.of_keeps {tree later : Tree} (hkeeps : KeepsDirectories tree later)
    {names : List String} {place : Place} (hway : tree.OnTheWay names place) :
    later.OnTheWay names place := by
  obtain ⟨front, hfront, hat⟩ := hway
  exact ⟨front, hfront, directoryAt_of_keeps hkeeps hat⟩

theorem OnTheWay.mono {tree : Tree} {names further : List String} {place : Place}
    (hway : tree.OnTheWay names place) (hnames : names <+: further) :
    tree.OnTheWay further place := by
  obtain ⟨front, hfront, hat⟩ := hway
  exact ⟨front, hfront.trans hnames, hat⟩

/-- Nothing but directories on the way has been added. -/
structure Widens (names : List String) (tree later : Tree) : Prop where
  keeps : KeepsDirectories tree later
  places : ∀ place, later.get? place = tree.get? place ∨
    tree.get? place = none ∧ later.get? place = some .directory ∧ later.OnTheWay names place

theorem Widens.refl (names : List String) (tree : Tree) : Widens names tree tree :=
  ⟨.refl tree, fun _ => .inl rfl⟩

theorem Widens.trans {names : List String} {tree middle later : Tree}
    (hfirst : Widens names tree middle) (hsecond : Widens names middle later) :
    Widens names tree later := by
  refine ⟨hfirst.keeps.trans hsecond.keeps, fun place => ?_⟩
  rcases hsecond.places place with hsame | ⟨hnone, hdirectory, hway⟩
  · rcases hfirst.places place with hbefore | ⟨hnone, hdirectory, hway⟩
    · exact .inl (hsame.trans hbefore)
    · exact .inr ⟨hnone, hsame.trans hdirectory, hway.of_keeps hsecond.keeps⟩
  · rcases hfirst.places place with hbefore | ⟨-, hmade, -⟩
    · exact .inr ⟨hbefore ▸ hnone, hdirectory, hway⟩
    · simp [hmade] at hnone

theorem widens_makeDirectory {names : List String} {tree next : Tree} {path : String}
    (hfront : Path.names path <+: names) (hmake : tree.makeDirectory path = .ok next) :
    Widens names tree next := by
  obtain ⟨place, hleads, hnone, rfl⟩ := makeDirectory_ok hmake
  have hne := hleads.ne_nil
  have hkeeps : KeepsDirectories tree (tree.insert place .directory) :=
    keepsDirectories_insert hne (by simp [hnone])
  refine ⟨hkeeps, fun other => ?_⟩
  by_cases heq : other = place
  · subst heq
    have hmade : (tree.insert other .directory).get? other = some .directory := by
      simp [get?_insert tree other other _ hne]
    refine .inr ⟨hnone, hmade, Path.names path, hfront, ?_⟩
    obtain ⟨before, name, directory, hnames, hat, hfollow, -⟩ := hleads.exists_names
    have hbefore := (directoryAt_ok.mp (directoryAt_of_keeps hkeeps hat)).1
    rw [directoryAt_ok, hnames, List.foldlM_append, hbefore]
    refine ⟨?_, hmade⟩
    simp [follow_of_keeps hkeeps hfollow]
  · left
    simp [get?_insert tree place other _ hne, heq]

theorem widens_ensureDirectory {names : List String} {tree next : Tree} {path : String}
    (hfront : Path.names path <+: names) (hensure : tree.ensureDirectory path = .ok next) :
    Widens names tree next := by
  unfold ensureDirectory at hensure
  cases hmake : tree.makeDirectory path with
  | ok made =>
      simp only [hmake, Except.ok.injEq] at hensure
      exact hensure ▸ widens_makeDirectory hfront hmake
  | error fault =>
      simp only [hmake] at hensure
      split at hensure
      · simp only [Except.ok.injEq] at hensure
        exact hensure ▸ .refl names tree
      · simp at hensure

theorem widens_makeDirectories_go {names : List String} (tree : Tree) {paths : List String}
    (hfront : ∀ path ∈ paths, Path.names path <+: names) :
    Widens names tree (makeDirectories.go tree paths).1 := by
  induction paths generalizing tree with
  | nil => exact .refl names tree
  | cons path around ih =>
      have hpath := hfront path (by simp)
      have haround := ih tree fun other hother => hfront other (by simp [hother])
      unfold makeDirectories.go
      split
      next made hmade => exact widens_ensureDirectory hpath hmade
      next =>
        split
        next made fault hgo => exact hgo ▸ haround
        next made hgo =>
          rw [hgo] at haround
          split
          next last hlast => exact haround.trans (widens_ensureDirectory hpath hlast)
          next => exact haround
      next => exact .refl names tree

theorem names_ancestors {fuel : Nat} {path ancestor : String}
    (hancestor : ancestor ∈ ancestors fuel path) : Path.names ancestor <+: Path.names path := by
  induction fuel generalizing path with
  | zero => simp [ancestors] at hancestor
  | succ fuel ih =>
      unfold ancestors at hancestor
      split at hancestor
      · simp at hancestor
      · rcases List.mem_cons.mp hancestor with rfl | hmem
        · exact List.prefix_refl _
        · cases hparent : Path.parent? path with
          | none => simp [hparent] at hmem
          | some parent =>
              simp only [hparent] at hmem
              exact (ih hmem).trans (Path.names_parent? hparent)

theorem widens_makeDirectories {names : List String} (tree : Tree) {path : String}
    (hfront : Path.names path <+: names) : Widens names tree (tree.makeDirectories path).1 :=
  widens_makeDirectories_go tree fun _ hancestor => (names_ancestors hancestor).trans hfront

/-- How writing a file ends once its directory is looked after. -/
inductive Ends (path content : String) (tree : Tree) : Tree → Except Failure Unit → Prop
  | refused (failure : Failure) : Ends path content tree tree (.error failure)
  | cleaned (failure : Failure) (temporary : Place)
      (leads : tree.Leads (temporaryPath path) temporary)
      (isFile : tree.get? temporary ≠ some .directory) :
      Ends path content tree (tree.erase temporary) (.error failure)
  | replaced (temporary place : Place) (leads : tree.Leads (temporaryPath path) temporary)
      (isFile : tree.get? temporary ≠ some .directory) (leadsFile : tree.Leads path place)
      (isReplaceable : tree.get? place ≠ some .directory)
      (endsInName : Path.endsInSlash path = false) :
      Ends path content tree ((tree.erase temporary).insert place (.file content)) (.ok ())

theorem erase_insert (tree : Tree) (place : Place) (node : Node) :
    (tree.insert place node).erase place = tree.erase place := by
  simp [insert, erase]

theorem insert_erase (tree : Tree) (place : Place) (node : Node) :
    (tree.erase place).insert place node = tree.insert place node := by
  simp [insert, erase]

@[simp] theorem run_done (path content : String) (tree : Tree) (result : Except Failure Unit) :
    Writing.run path content (tree, .done result) = (tree, result) := by
  rw [Writing.run]

theorem run_step (path content : String) (tree : Tree) (writing : Writing) :
    Writing.run path content (writing.step path content tree) =
      Writing.run path content (tree, writing) := by
  cases writing with
  | done result => rfl
  | _ => conv => rhs; rw [Writing.run]

theorem run_cleaning (path content : String) (tree : Tree) (failure : Failure) :
    Writing.run path content (tree, .cleaning failure) =
      match tree.remove (temporaryPath path) with
      | .ok next => (next, .error failure)
      | .error _ => (tree, .error failure) := by
  rw [← run_step, Writing.step]
  cases tree.remove (temporaryPath path) <;> exact run_done ..

theorem run_replacing (path content : String) (tree : Tree) :
    Writing.run path content (tree, .replacing) =
      match tree.rename (temporaryPath path) path with
      | .ok next => (next, .ok ())
      | .error fault =>
          Writing.run path content (tree, .cleaning (.writeFailed path fault)) := by
  rw [← run_step, Writing.step]
  cases tree.rename (temporaryPath path) path with
  | ok next => exact run_done ..
  | error fault => rfl

theorem run_writingTemporary (path content : String) (tree : Tree) :
    Writing.run path content (tree, .writingTemporary) =
      match tree.write (temporaryPath path) content with
      | .ok next => Writing.run path content (next, .replacing)
      | .error fault =>
          Writing.run path content
            (tree, .cleaning (.writeFailed (temporaryPath path) fault)) := by
  rw [← run_step, Writing.step]
  cases tree.write (temporaryPath path) content <;> rfl

theorem writeAtomic_eq (tree : Tree) (path content : String) :
    tree.writeAtomic path content =
      match Path.parent? path with
      | some parent =>
          if parent.isEmpty then Writing.run path content (tree, .writingTemporary)
          else
            match tree.makeDirectories parent with
            | (next, .ok ()) => Writing.run path content (next, .writingTemporary)
            | (next, .error fault) => (next, .error (.writeFailed parent fault))
      | none => Writing.run path content (tree, .writingTemporary) := by
  rw [writeAtomic, ← run_step, Writing.step]
  cases Path.parent? path with
  | none => rfl
  | some parent =>
      dsimp only
      split
      · rfl
      · rcases tree.makeDirectories parent with ⟨next, fault | done⟩
        · exact run_done ..
        · rfl

/-- A temporary file that has been written is either moved to the file's place or removed. -/
theorem ends_replacing {path content : String} {tree : Tree} {temporary : Place}
    (hleads : tree.Leads (temporaryPath path) temporary)
    (hfile : tree.get? temporary ≠ some .directory)
    (hslash : Path.endsInSlash (temporaryPath path) = false) :
    let written := tree.insert temporary (.file content)
    Ends path content tree (Writing.run path content (written, .replacing)).1
      (Writing.run path content (written, .replacing)).2 := by
  intro written
  have hne := hleads.ne_nil
  have hkeeps : KeepsDirectories tree written := keepsDirectories_insert hne hfile
  have hwritten : written.get? temporary = some (.file content) := by
    simp [written, get?_insert tree temporary temporary _ hne]
  rw [run_replacing]
  cases hrename : written.rename (temporaryPath path) path with
  | error fault =>
      have hremove := remove_of_leads (hleads.of_keeps hkeeps) hwritten hslash
      dsimp only
      rw [run_cleaning, hremove, erase_insert]
      exact .cleaned _ temporary hleads hfile
  | ok last =>
      obtain ⟨origin, place, moved, horigin, hplace, hmoved, hdirectory, hends, rfl⟩ :=
        rename_ok hrename
      obtain rfl : origin = temporary := horigin.unique (hleads.of_keeps hkeeps)
      obtain rfl : content = moved := by simpa [hwritten] using hmoved
      have hback : KeepsDirectories written tree := by
        intro other hother
        rw [get?_insert tree origin other _ hne] at hother
        split at hother
        · simp at hother
        · exact hother
      have hlast : (if place == origin then written
          else (written.erase origin).insert place (.file content)) =
            (tree.erase origin).insert place (.file content) := by
        split
        next heq => rw [eq_of_beq heq, insert_erase]
        next => rw [erase_insert]
      dsimp only
      rw [hlast]
      exact .replaced origin place hleads hfile (hplace.of_keeps hback)
        (fun hold => hdirectory (hkeeps place hold)) hends

theorem ends_run (path content : String) (tree : Tree) :
    Ends path content tree (Writing.run path content (tree, .writingTemporary)).1
      (Writing.run path content (tree, .writingTemporary)).2 := by
  rw [run_writingTemporary]
  cases hwrite : tree.write (temporaryPath path) content with
  | ok next =>
      obtain ⟨temporary, hleads, hfile, hslash, rfl⟩ := write_ok hwrite
      exact ends_replacing hleads hfile hslash
  | error fault =>
      dsimp only
      rw [run_cleaning]
      cases hremove : tree.remove (temporaryPath path) with
      | error _ => exact .refused _
      | ok next =>
          obtain ⟨temporary, old, hleads, hfile, rfl⟩ := remove_ok hremove
          exact .cleaned _ temporary hleads (by simp [hfile])

theorem writeAtomic_ends (tree : Tree) (path content : String) :
    ∃ middle, Widens (Path.outerNames path) tree middle ∧
      Ends path content middle (tree.writeAtomic path content).1
        (tree.writeAtomic path content).2 := by
  rw [writeAtomic_eq, Path.outerNames]
  cases hparent : Path.parent? path with
  | none => exact ⟨tree, .refl _ tree, ends_run path content tree⟩
  | some parent =>
      have hwidens := widens_makeDirectories tree (List.prefix_refl (Path.names parent))
      dsimp only
      split
      · exact ⟨tree, .refl _ tree, ends_run path content tree⟩
      · rcases hmake : tree.makeDirectories parent with ⟨next, fault | done⟩
        · rw [hmake] at hwidens
          exact ⟨next, hwidens, .refused _⟩
        · rw [hmake] at hwidens
          exact ⟨next, hwidens, ends_run path content next⟩

theorem find_ok {tree : Tree} {path : String} {node : Node} :
    tree.find path = .ok node ↔
      node = .directory ∧ tree.target path = .ok .existing ∨
        ∃ place, tree.Leads path place ∧ tree.get? place = some node ∧
          (node = .directory ∨ Path.endsInSlash path = false) := by
  rw [find, bind_eq_ok]
  constructor
  · rintro ⟨found, htarget, hfound⟩
    cases found with
    | existing => exact .inl ⟨(pure_eq_ok.mp hfound).symm, htarget⟩
    | named directory name =>
        rw [bind_eq_ok] at hfound
        obtain ⟨place, hfollow, hplace⟩ := hfound
        refine .inr ⟨place, ⟨directory, name, htarget, hfollow⟩, ?_⟩
        split at hplace
        · simp at hplace
        next content hfile =>
          split at hplace
          · simp at hplace
          next hslash =>
            obtain rfl := pure_eq_ok.mp hplace
            exact ⟨hfile, .inr (by simpa using hslash)⟩
        next hdirectory =>
          obtain rfl := pure_eq_ok.mp hplace
          exact ⟨hdirectory, .inl rfl⟩
  · rintro (⟨rfl, htarget⟩ | ⟨place, ⟨directory, name, htarget, hfollow⟩, hplace, hslash⟩)
    · exact ⟨_, htarget, rfl⟩
    · refine ⟨_, htarget, ?_⟩
      cases node with
      | directory => simp [hfollow, hplace]
      | file content =>
          have hname := hslash.resolve_left nofun
          simp [hfollow, hplace, hname]

theorem read_eq_ok {tree : Tree} {path content : String} :
    tree.read path = .ok content ↔ tree.find path = .ok (.file content) := by
  rw [read, bind_eq_ok]
  constructor
  · rintro ⟨node, hfind, hcontent⟩
    cases node with
    | directory => simp at hcontent
    | file old => rwa [← pure_eq_ok.mp hcontent]
  · intro hfind
    exact ⟨_, hfind, by simp⟩

theorem read_ok {tree : Tree} {path content : String} :
    tree.read path = .ok content ↔
      ∃ place, tree.Leads path place ∧ tree.get? place = some (.file content) ∧
        Path.endsInSlash path = false := by
  simp [read_eq_ok, find_ok]

end ProviderForge.Tree

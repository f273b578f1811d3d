import ProviderForge.Proofs.Disk.Parents

namespace ProviderForge

namespace Tree

open Result

section

variable {tree : Tree} {path : String} {place temporary : Place}

theorem Leads.exists_split (hleads : tree.Leads path place) :
    ∃ before last directory, Path.split path = some (before, last) ∧
      Path.fileName? path = some last ∧
      tree.directoryAt (before.reverse.filter fun piece => !piece.isEmpty) = .ok directory ∧
      place = directory ++ [last] := by
  obtain ⟨directory, name, htarget, hfollow⟩ := hleads
  obtain ⟨front, hnames, hat, hpoint, hpoints⟩ := target_named htarget
  cases hsplit : Path.split path with
  | none => exact absurd (Path.names_of_split_none hsplit name (by simp [hnames])) hpoint
  | some found =>
      obtain ⟨before, last⟩ := found
      obtain ⟨points, hwhole, hidle⟩ := Path.names_of_split hsplit
      -- the last of the names is no point, so the path ends in its last name
      obtain rfl : points = [] := by
        rcases List.eq_nil_or_concat points with hnil | ⟨earlier, final, rfl⟩
        · exact hnil
        · rw [hnames, List.concat_eq_append, ← List.append_assoc] at hwhole
          obtain rfl := List.singleton_inj.mp (List.append_inj' hwhole rfl).2
          exact absurd (hidle name (by simp)) hpoint
      rw [hnames, List.append_nil] at hwhole
      obtain ⟨rfl, hlast⟩ := List.append_inj' hwhole rfl
      obtain rfl := List.singleton_inj.mp hlast
      refine ⟨before, name, directory, rfl, ?_, hat, follow_name hfollow hpoint hpoints⟩
      simp [Path.fileName?, hsplit, hpoint, hpoints]

theorem Leads.exists_split_temporary (hleads : tree.Leads (temporaryPath path) temporary) :
    ∃ before last directory, Path.split path = some (before, last) ∧
      Path.split (temporaryPath path) = some (before, Path.temporaryName last) ∧
      tree.directoryAt (before.reverse.filter fun piece => !piece.isEmpty) = .ok directory ∧
      temporary = directory ++ [Path.temporaryName last] := by
  obtain ⟨before, name, directory, hbeside, hname, hat, rfl⟩ := hleads.exists_split
  cases hfile : Path.fileName? path with
  | none =>
      have hsame : temporaryPath path = path := by simp [temporaryPath, Path.withExtension, hfile]
      rw [hsame, hfile] at hname
      simp at hname
  | some last =>
      obtain ⟨⟨earlier, found⟩, hsplit, hfound⟩ := Option.bind_eq_some_iff.mp hfile
      obtain rfl : found = last := by
        dsimp only at hfound
        split at hfound
        · simp at hfound
        · exact Option.some.inj hfound
      rcases Path.pieces_temporaryPath hsplit hfile with hpieces | hpieces
      · have hown := Path.split_of_pieces hpieces (Path.isIdle_temporaryName found)
        rw [List.reverse_reverse] at hown
        rw [hown] at hbeside
        obtain ⟨rfl, rfl⟩ := Prod.mk.inj (Option.some.inj hbeside)
        exact ⟨earlier, found, directory, hsplit, hown, hat, rfl⟩
      · have hback := Path.split_of_pieces hpieces (by decide)
        simp [Path.fileName?, hback] at hname

theorem Leads.ne_temporary (hleads : tree.Leads path place)
    (htemporary : tree.Leads (temporaryPath path) temporary) : place ≠ temporary := by
  obtain ⟨before, last, directory, hsplit, -, -, rfl⟩ := hleads.exists_split
  obtain ⟨earlier, name, outer, hother, -, -, rfl⟩ := htemporary.exists_split_temporary
  rw [hsplit] at hother
  obtain ⟨rfl, rfl⟩ := Prod.mk.inj (Option.some.inj hother)
  intro heq
  exact Path.ne_temporaryName last (List.singleton_inj.mp (List.append_inj' heq rfl).2)

end

section

variable {tree next : Tree} {path content : String} {failure : Failure}

/-- Where the directory of the file cannot be made, no temporary file can be. -/
theorem not_leads_of_makeDirectories {parent : String} {fault : FileFault} {temporary : Place}
    (hmake : tree.makeDirectories parent = (next, .error fault))
    (hparent : Path.parent? path = some parent) (hne : parent ≠ "") :
    ¬ next.Leads (temporaryPath path) temporary := by
  intro hleads
  obtain ⟨before, last, directory, hsplit, hbeside, hat, -⟩ := hleads.exists_split_temporary
  have hsame : Path.parent? (temporaryPath path) = some parent := by
    rw [← hparent]
    simp only [Path.parent?, hsplit, hbeside, Option.bind_eq_bind, Option.bind_some]
  have hleading := Path.parent?_leading hsame
  obtain ⟨_, _, htarget, -⟩ := hleads
  obtain ⟨⟨htellable, -, hshort⟩, -⟩ := target_ok.mp htarget
  obtain ⟨outer, houter⟩ := directoryAt_prefix (Path.names_parent_leading hsplit hparent) hat
  have hdirectory := isDirectory_of_directoryAt houter hne
    (Path.isTellable_of_leading hleading htellable)
    (Nat.lt_of_le_of_lt (Path.utf8ByteSize_of_leading hleading) hshort)
  -- the directory is there, so making it again would succeed
  obtain ⟨other, hagain⟩ := makeDirectories_error_again hmake
  rw [makeDirectories_of_isDirectory hne hdirectory] at hagain
  simp at hagain

theorem run_cleaning_unread (path content : String) (tree : Tree) (failure : Failure)
    (stale : String) :
    (Writing.run path content (tree, .cleaning failure)).1.read (temporaryPath path) ≠
      .ok stale := by
  rw [run_cleaning]
  intro hread
  cases hremove : tree.remove (temporaryPath path) with
  | ok next =>
      simp only [hremove] at hread
      obtain ⟨place, old, hleads, hfile, rfl⟩ := remove_ok hremove
      obtain ⟨other, hother, hstale, -⟩ := read_ok.mp hread
      have hne := hleads.ne_nil
      have hlater := hleads.of_keeps (keepsDirectories_erase hne (by simp [hfile]))
      rw [hother.unique hlater, get?_erase tree place place hne, if_pos rfl] at hstale
      simp at hstale
  | error fault =>
      simp only [hremove] at hread
      obtain ⟨place, hleads, hfile, hslash⟩ := read_ok.mp hread
      simp [remove_of_leads hleads hfile hslash] at hremove

theorem run_writingTemporary_unread
    (hfailed : (Writing.run path content (tree, .writingTemporary)).2 = .error failure)
    (stale : String) :
    (Writing.run path content (tree, .writingTemporary)).1.read (temporaryPath path) ≠
      .ok stale := by
  rw [run_writingTemporary] at hfailed ⊢
  cases hwrite : tree.write (temporaryPath path) content with
  | error fault => exact run_cleaning_unread path content tree _ stale
  | ok next =>
      simp only [hwrite, run_replacing] at hfailed ⊢
      cases hrename : next.rename (temporaryPath path) path with
      | ok last => simp [hrename] at hfailed
      | error fault => exact run_cleaning_unread path content next _ stale

theorem writeAtomic_unread (hfailed : (tree.writeAtomic path content).2 = .error failure)
    (stale : String) : (tree.writeAtomic path content).1.read (temporaryPath path) ≠ .ok stale := by
  rw [writeAtomic_eq] at hfailed ⊢
  cases hparent : Path.parent? path with
  | none =>
      simp only [hparent] at hfailed ⊢
      exact run_writingTemporary_unread hfailed stale
  | some parent =>
      simp only [hparent] at hfailed ⊢
      by_cases hempty : parent.isEmpty
      · simp only [hempty, if_true] at hfailed ⊢
        exact run_writingTemporary_unread hfailed stale
      · simp only [hempty, Bool.false_eq_true, if_false] at hfailed ⊢
        rcases hmake : tree.makeDirectories parent with ⟨next, fault | done⟩
        · intro hread
          obtain ⟨place, hleads, -⟩ := read_ok.mp hread
          exact not_leads_of_makeDirectories hmake hparent (by simpa using hempty) hleads
        · simp only [hmake] at hfailed ⊢
          exact run_writingTemporary_unread hfailed stale

end

structure IsMade (path : String) (tree later : Tree) (place : Place) : Prop where
  wasMissing : tree.get? place = none
  isDirectory : later.get? place = some .directory
  isAncestor : later.OnTheWay (Path.outerNames path) place

/-- What becomes of a place when a file is written somewhere else, or is not written. -/
inductive Beside (path : String) (tree later : Tree) (place : Place) : Prop
  | same (unchanged : later.get? place = tree.get? place)
  | removed (leads : later.Leads (temporaryPath path) place)
      (wasFile : ∃ stale, tree.get? place = some (.file stale)) (isGone : later.get? place = none)
  | made (isMade : IsMade path tree later place)

section

variable {tree middle later : Tree} {path content : String} {place temporary : Place}

theorem Beside.of_keeps (hbeside : Beside path tree middle place)
    (hkeeps : KeepsDirectories middle later) (hsame : later.get? place = middle.get? place) :
    Beside path tree later place := by
  cases hbeside with
  | same unchanged => exact .same (hsame.trans unchanged)
  | removed leads wasFile isGone =>
      exact .removed (leads.of_keeps hkeeps) wasFile (hsame.trans isGone)
  | made isMade =>
      exact .made ⟨isMade.wasMissing, hsame.trans isMade.isDirectory,
        isMade.isAncestor.of_keeps hkeeps⟩

theorem Widens.beside (hwidens : Widens (Path.outerNames path) tree middle) (place : Place) :
    Beside path tree middle place := by
  rcases hwidens.places place with hsame | ⟨hmissing, hdirectory, hway⟩
  · exact .same hsame
  · exact .made ⟨hmissing, hdirectory, hway⟩

theorem Widens.beside_erase (hwidens : Widens (Path.outerNames path) tree middle)
    (hleads : middle.Leads (temporaryPath path) temporary)
    (hfree : middle.get? temporary ≠ some .directory) (place : Place) :
    Beside path tree (middle.erase temporary) place := by
  have hne := hleads.ne_nil
  have hkeeps := keepsDirectories_erase hne hfree
  by_cases heq : place = temporary
  · subst heq
    have hgone : (middle.erase place).get? place = none := by
      simp [get?_erase middle place place hne]
    cases hbefore : tree.get? place with
    | none => exact .same (hgone.trans hbefore.symm)
    | some node =>
        cases node with
        | directory => exact absurd (hwidens.keeps place hbefore) hfree
        | file stale => exact .removed (hleads.of_keeps hkeeps) ⟨stale, hbefore⟩ hgone
  · exact (hwidens.beside place).of_keeps hkeeps (by simp [get?_erase middle _ _ hne, heq])

structure IsWritten (path content : String) (tree later : Tree) : Prop where
  holds : later.read path = .ok content
  noTemporary : later.find (temporaryPath path) = .error .notFound
  others : ∀ place, later.Leads path place ∨ Beside path tree later place

structure IsRefused (path : String) (tree later : Tree) : Prop where
  /-- What stood at the path still does. -/
  kept : ∀ node, tree.find path = .ok node → later.find path = .ok node
  /-- Where nothing stood at the path, nothing does, or a directory that was made around it. -/
  unwritten : ∀ place, later.Leads path place →
    later.get? place = tree.get? place ∨ IsMade path tree later place
  noTemporary : ∀ stale, later.read (temporaryPath path) ≠ .ok stale
  others : ∀ place, Beside path tree later place

/-- What changes beside the file does not change the file. -/
theorem isRefused_of_beside (hkeeps : KeepsDirectories tree later)
    (hbeside : ∀ place, Beside path tree later place)
    (hunread : ∀ stale, later.read (temporaryPath path) ≠ .ok stale) :
    IsRefused path tree later := by
  have hunwritten : ∀ place, later.Leads path place →
      later.get? place = tree.get? place ∨ IsMade path tree later place := by
    intro place hleads
    cases hbeside place with
    | same unchanged => exact .inl unchanged
    | removed leads _ _ => exact absurd rfl (hleads.ne_temporary leads)
    | made isMade => exact .inr isMade
  refine ⟨fun node hfind => ?_, hunwritten, hunread, hbeside⟩
  rw [find_ok] at hfind ⊢
  rcases hfind with ⟨rfl, htarget⟩ | ⟨place, hleads, hnode, hslash⟩
  · exact .inl ⟨rfl, target_of_keeps hkeeps htarget⟩
  · have hlater := hleads.of_keeps hkeeps
    rcases hunwritten place hlater with hsame | hmade
    · exact .inr ⟨place, hlater, hsame.trans hnode, hslash⟩
    · rw [hmade.wasMissing] at hnode
      simp at hnode

theorem isWritten_of_replaced (hwidens : Widens (Path.outerNames path) tree middle)
    (htemporary : middle.Leads (temporaryPath path) temporary)
    (hfree : middle.get? temporary ≠ some .directory) (hleads : middle.Leads path place)
    (hreplaceable : middle.get? place ≠ some .directory)
    (hslash : Path.endsInSlash path = false) :
    KeepsDirectories tree ((middle.erase temporary).insert place (.file content)) ∧
      IsWritten path content tree ((middle.erase temporary).insert place (.file content)) := by
  have hplace := hleads.ne_nil
  have hne := htemporary.ne_nil
  have hapart := hleads.ne_temporary htemporary
  have hcleaned : KeepsDirectories middle (middle.erase temporary) :=
    keepsDirectories_erase hne hfree
  have hfilled : KeepsDirectories (middle.erase temporary)
      ((middle.erase temporary).insert place (.file content)) :=
    keepsDirectories_insert hplace (by simpa [get?_erase middle _ _ hne, hapart] using hreplaceable)
  have hkeeps := hcleaned.trans hfilled
  refine ⟨hwidens.keeps.trans hkeeps, ?_, ?_, fun other => ?_⟩
  · exact read_ok.mpr ⟨place, hleads.of_keeps hkeeps, by simp [get?_insert _ _ _ _ hplace], hslash⟩
  · obtain ⟨directory, name, htarget, hfollow⟩ := htemporary.of_keeps hkeeps
    simp [find, htarget, hfollow, get?_insert _ _ _ _ hplace, Ne.symm hapart,
      get?_erase middle _ _ hne]
  · by_cases heq : other = place
    · exact .inl (heq ▸ hleads.of_keeps hkeeps)
    · exact .inr ((hwidens.beside_erase htemporary hfree other).of_keeps hfilled
        (by simp [get?_insert _ _ _ _ hplace, heq]))

end

/-- Writing a file either writes it as a whole or refuses, and removes no directory. -/
theorem writeAtomic_whole (tree : Tree) (path content : String) :
    let written := tree.writeAtomic path content
    KeepsDirectories tree written.1 ∧
      ((written.2 = .ok () ∧ IsWritten path content tree written.1) ∨
        ∃ failure, written.2 = .error failure ∧ IsRefused path tree written.1) := by
  obtain ⟨middle, hwidens, hends⟩ := writeAtomic_ends tree path content
  have hunread := @writeAtomic_unread tree path content
  dsimp only
  generalize tree.writeAtomic path content = written at hends hunread ⊢
  obtain ⟨later, result⟩ := written
  cases hends with
  | refused failure =>
      exact ⟨hwidens.keeps, .inr ⟨failure, rfl,
        isRefused_of_beside hwidens.keeps hwidens.beside (hunread rfl)⟩⟩
  | cleaned failure temporary leads isFile =>
      have hkeeps := hwidens.keeps.trans (keepsDirectories_erase leads.ne_nil isFile)
      exact ⟨hkeeps, .inr ⟨failure, rfl,
        isRefused_of_beside hkeeps (hwidens.beside_erase leads isFile) (hunread rfl)⟩⟩
  | replaced temporary place leads isFile leadsFile isReplaceable endsInName =>
      obtain ⟨hkeeps, hwritten⟩ :=
        isWritten_of_replaced hwidens leads isFile leadsFile isReplaceable endsInName
      exact ⟨hkeeps, .inl ⟨rfl, hwritten⟩⟩

/-- A path can pass through a directory of its own name: made on the way, the directory stands
where the file was to be, and nothing stood before. -/
theorem writeAtomic_makes_directory_of_file :
    let written := Tree.writeAtomic {} "f/../f" "x"
    written.2 = .error (.writeFailed "f/../f" .isDirectory) ∧
      (Tree.find {} "f/../f").toOption = none ∧ (Tree.get? {} ["f"]) = none ∧
      (written.1.find "f/../f").toOption = some .directory ∧
      written.1.get? ["f"] = some .directory := by
  decide +kernel

end Tree

end ProviderForge

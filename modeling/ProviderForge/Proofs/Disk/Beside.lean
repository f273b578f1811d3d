import ProviderForge.Proofs.Disk.Parents

namespace ProviderForge.Writing

variable (path content : String) (tree : Tree)

theorem step_makingParents : makingParents.step path content tree =
    match Path.parent? path with
    | some parent =>
        if parent.isEmpty then (tree, writingTemporary)
        else
          match tree.makeDirectories parent with
          | (next, .ok ()) => (next, writingTemporary)
          | (next, .error fault) => (next, done (.error (.writeFailed parent fault)))
    | none => (tree, writingTemporary) := (rfl)

theorem step_writingTemporary : writingTemporary.step path content tree =
    match tree.write (temporaryPath path) content with
    | .ok next => (next, replacing)
    | .error fault => (tree, cleaning (.writeFailed (temporaryPath path) fault)) := (rfl)

theorem step_replacing : replacing.step path content tree =
    match tree.rename (temporaryPath path) path with
    | .ok next => (next, done (.ok ()))
    | .error fault => (tree, cleaning (.writeFailed path fault)) := (rfl)

theorem step_cleaning (failure : Failure) : (cleaning failure).step path content tree =
    match tree.remove (temporaryPath path) with
    | .ok next => (next, done (.error failure))
    | .error _ => (tree, done (.error failure)) := (rfl)

end ProviderForge.Writing

namespace ProviderForge.Tree

open Result Writing

/-- What the text of a path is refused for, whatever stands in the tree. -/
def told (path : String) : Except FileFault Unit :=
  if !Path.isTellable path then .error .notTellable
  else if path.utf8ByteSize ≥ pathLimit then .error .nameTooLong
  else .ok ()

def nameable (name : String) : Except FileFault Unit :=
  if name.utf8ByteSize > longestName then .error .nameTooLong else .ok ()

section

variable {tree : Tree} {directory name : String} {whole : Place}

theorem target_join (hat : tree.directoryAt (Path.names directory) = .ok whole)
    (hplain : Path.IsPlain name) :
    tree.target (Path.join directory name) =
      (told (Path.join directory name) >>= fun _ => .ok (.named whole name)) := by
  have hnames : (Path.names (Path.join directory name)).reverse =
      name :: (Path.names directory).reverse := by
    rw [Path.names_join directory hplain, List.reverse_concat]
  have hne : (Path.join directory name).isEmpty = false := by
    rw [← Bool.not_eq_true, String.isEmpty_iff]
    intro hempty
    rw [hempty] at hnames
    exact absurd hnames (by simp [Path.names, Path.pieces, Path.cut])
  unfold target told
  by_cases htellable : Path.isTellable (Path.join directory name) = true
  · by_cases hlong : (Path.join directory name).utf8ByteSize ≥ pathLimit
    · simp [htellable, hne, hlong]
    · simp [htellable, hne, hlong, hnames, hat, hplain.ne_point, hplain.not_parent]
  · simp [htellable]

theorem follow_plain (hat : tree.directoryAt (Path.names directory) = .ok whole)
    (hplain : Path.IsPlain name) :
    tree.follow whole name = (nameable name >>= fun _ => .ok (whole ++ [name])) := by
  simp only [follow, (directoryAt_ok.mp hat).2, nameable, beq_iff_eq, hplain.ne_point,
    hplain.not_parent, if_false]
  split <;> rfl

theorem endsInSlash_join (hplain : Path.IsPlain name) :
    Path.endsInSlash (Path.join directory name) = false := by
  obtain ⟨before, hjoin⟩ : ∃ before, Path.join directory name = before ++ name := by
    unfold Path.join
    split
    · exact ⟨_, rfl⟩
    · exact ⟨_, rfl⟩
  rw [Path.endsInSlash, ← Bool.not_eq_true, Path.endsWith_iff]
  intro hslash
  apply hplain.slash_not_mem
  obtain ⟨front, hfront⟩ := hslash
  have hlast : (before.toList ++ name.toList).getLast? = some '/' := by
    rw [← String.toList_append, ← hjoin, ← hfront]
    exact List.getLast?_concat
  rw [List.getLast?_append, Option.or_of_isSome (by simpa using hplain.ne_empty)] at hlast
  exact List.mem_of_getLast? hlast

theorem write_join (hat : tree.directoryAt (Path.names directory) = .ok whole)
    (hplain : Path.IsPlain name) (content : String) :
    tree.write (Path.join directory name) content =
      (told (Path.join directory name) >>= fun _ => nameable name >>= fun _ =>
        if tree.get? (whole ++ [name]) = some .directory then .error .isDirectory
        else .ok (tree.insert (whole ++ [name]) (.file content))) := by
  simp only [write, target_join hat hplain, endsInSlash_join hplain, bind_assoc, ok_bind,
    follow_plain hat hplain, Bool.false_eq_true, if_false]
  congr 1
  funext _
  congr 1
  funext _
  cases hplace : tree.get? (whole ++ [name]) with
  | none => rfl
  | some node => cases node <;> rfl

theorem remove_join (hat : tree.directoryAt (Path.names directory) = .ok whole)
    (hplain : Path.IsPlain name) :
    tree.remove (Path.join directory name) =
      (told (Path.join directory name) >>= fun _ => nameable name >>= fun _ =>
        match tree.get? (whole ++ [name]) with
        | none => .error .notFound
        | some .directory => .error .isDirectory
        | some (.file _) => .ok (tree.erase (whole ++ [name]))) := by
  simp only [remove, target_join hat hplain, endsInSlash_join hplain, bind_assoc, ok_bind,
    follow_plain hat hplain, Bool.false_eq_true, if_false]
  rfl

theorem rename_join {source : String}
    (hat : tree.directoryAt (Path.names directory) = .ok whole)
    (hsource : Path.IsPlain source) (hplain : Path.IsPlain name) :
    tree.rename (Path.join directory source) (Path.join directory name) =
      (told (Path.join directory source) >>= fun _ => told (Path.join directory name) >>= fun _ =>
        nameable source >>= fun _ =>
          match tree.get? (whole ++ [source]) with
          | none => .error .notFound
          | some .directory => .error .isDirectory
          | some (.file content) => nameable name >>= fun _ =>
              if tree.get? (whole ++ [name]) = some .directory then .error .isDirectory
              else if source = name then .ok tree
              else .ok ((tree.erase (whole ++ [source])).insert (whole ++ [name])
                (.file content))) := by
  simp only [rename, target_join hat hplain, target_join hat hsource, endsInSlash_join hplain,
    bind_assoc, ok_bind, follow_plain hat hplain, follow_plain hat hsource, Bool.false_eq_true,
    if_false]
  congr 1
  funext _
  congr 1
  funext _
  congr 1
  funext _
  cases hsourcePlace : tree.get? (whole ++ [source]) with
  | none => rfl
  | some node =>
      cases node with
      | directory => rfl
      | file content =>
          have hsame : (whole ++ [name] == whole ++ [source]) = decide (source = name) := by
            rw [Bool.eq_iff_iff, beq_iff_eq, decide_eq_true_iff, List.append_cancel_left_eq,
              List.singleton_inj]
            exact eq_comm
          simp only [hsame, decide_eq_true_eq]
          congr 1
          funext _
          cases hplace : tree.get? (whole ++ [name]) with
          | none => rfl
          | some node => cases node <;> rfl

end

section

variable {tree other : Tree} {directory name : String} {whole : Place}

theorem write_alike (hat : tree.directoryAt (Path.names directory) = .ok whole)
    (hother : other.directoryAt (Path.names directory) = .ok whole) (hplain : Path.IsPlain name)
    (hsame : tree.get? (whole ++ [name]) = other.get? (whole ++ [name])) (content : String) :
    (∃ fault, tree.write (Path.join directory name) content = .error fault ∧
        other.write (Path.join directory name) content = .error fault) ∨
      tree.write (Path.join directory name) content =
          .ok (tree.insert (whole ++ [name]) (.file content)) ∧
        other.write (Path.join directory name) content =
          .ok (other.insert (whole ++ [name]) (.file content)) ∧
        tree.get? (whole ++ [name]) ≠ some .directory := by
  rw [write_join hat hplain, write_join hother hplain, ← hsame]
  cases told (Path.join directory name) with
  | error fault => exact .inl ⟨fault, rfl, rfl⟩
  | ok _ =>
      cases nameable name with
      | error fault => exact .inl ⟨fault, rfl, rfl⟩
      | ok _ =>
          by_cases hdirectory : tree.get? (whole ++ [name]) = some .directory
          · exact .inl ⟨.isDirectory, by simp [hdirectory], by simp [hdirectory]⟩
          · exact .inr ⟨by simp [hdirectory], by simp [hdirectory], hdirectory⟩

theorem remove_alike (hat : tree.directoryAt (Path.names directory) = .ok whole)
    (hother : other.directoryAt (Path.names directory) = .ok whole) (hplain : Path.IsPlain name)
    (hsame : tree.get? (whole ++ [name]) = other.get? (whole ++ [name])) :
    (∃ fault, tree.remove (Path.join directory name) = .error fault ∧
        other.remove (Path.join directory name) = .error fault) ∨
      tree.remove (Path.join directory name) = .ok (tree.erase (whole ++ [name])) ∧
        other.remove (Path.join directory name) = .ok (other.erase (whole ++ [name])) ∧
        tree.get? (whole ++ [name]) ≠ some .directory := by
  rw [remove_join hat hplain, remove_join hother hplain, ← hsame]
  cases told (Path.join directory name) with
  | error fault => exact .inl ⟨fault, rfl, rfl⟩
  | ok _ =>
      cases nameable name with
      | error fault => exact .inl ⟨fault, rfl, rfl⟩
      | ok _ =>
          cases tree.get? (whole ++ [name]) with
          | none => exact .inl ⟨.notFound, rfl, rfl⟩
          | some node =>
              cases node with
              | directory => exact .inl ⟨.isDirectory, rfl, rfl⟩
              | file content => exact .inr ⟨rfl, rfl, by simp⟩

theorem rename_alike {source : String}
    (hat : tree.directoryAt (Path.names directory) = .ok whole)
    (hother : other.directoryAt (Path.names directory) = .ok whole)
    (hsource : Path.IsPlain source) (hplain : Path.IsPlain name) (hne : source ≠ name)
    (hsourceSame : tree.get? (whole ++ [source]) = other.get? (whole ++ [source]))
    (hsame : tree.get? (whole ++ [name]) = other.get? (whole ++ [name])) :
    (∃ fault, tree.rename (Path.join directory source) (Path.join directory name) =
          .error fault ∧
        other.rename (Path.join directory source) (Path.join directory name) = .error fault) ∨
      ∃ node, tree.rename (Path.join directory source) (Path.join directory name) =
          .ok ((tree.erase (whole ++ [source])).insert (whole ++ [name]) node) ∧
        other.rename (Path.join directory source) (Path.join directory name) =
          .ok ((other.erase (whole ++ [source])).insert (whole ++ [name]) node) ∧
        tree.get? (whole ++ [source]) ≠ some .directory ∧
        tree.get? (whole ++ [name]) ≠ some .directory := by
  rw [rename_join hat hsource hplain, rename_join hother hsource hplain, ← hsourceSame, ← hsame]
  cases told (Path.join directory source) with
  | error fault => exact .inl ⟨fault, rfl, rfl⟩
  | ok _ =>
    cases told (Path.join directory name) with
    | error fault => exact .inl ⟨fault, rfl, rfl⟩
    | ok _ =>
      cases nameable source with
      | error fault => exact .inl ⟨fault, rfl, rfl⟩
      | ok _ =>
        cases tree.get? (whole ++ [source]) with
        | none => exact .inl ⟨.notFound, rfl, rfl⟩
        | some node =>
          cases node with
          | directory => exact .inl ⟨.isDirectory, rfl, rfl⟩
          | file content =>
            cases nameable name with
            | error fault => exact .inl ⟨fault, rfl, rfl⟩
            | ok _ =>
              by_cases hdirectory : tree.get? (whole ++ [name]) = some .directory
              · exact .inl ⟨.isDirectory, by simp [hdirectory], by simp [hdirectory]⟩
              · exact .inr ⟨.file content, by simp [hdirectory, hne], by simp [hdirectory, hne],
                  by simp, hdirectory⟩

end

def AgreeOn (places : Place → Prop) (tree other : Tree) : Prop :=
  ∀ place, places place → tree.get? place = other.get? place

namespace AgreeOn

variable {places : Place → Prop} {tree other : Tree}

theorem refl (places : Place → Prop) (tree : Tree) : AgreeOn places tree tree :=
  fun _ _ => rfl

theorem trans {later : Tree} (hfirst : AgreeOn places tree other)
    (hsecond : AgreeOn places other later) : AgreeOn places tree later :=
  fun place hplace => (hfirst place hplace).trans (hsecond place hplace)

theorem insert (hagree : AgreeOn places tree other) {place : Place} (hne : place ≠ [])
    (node : Node) : AgreeOn places (tree.insert place node) (other.insert place node) := by
  intro found hfound
  rw [get?_insert tree place found node hne, get?_insert other place found node hne,
    hagree found hfound]

theorem erase (hagree : AgreeOn places tree other) {place : Place} (hne : place ≠ []) :
    AgreeOn places (tree.erase place) (other.erase place) := by
  intro found hfound
  rw [get?_erase tree place found hne, get?_erase other place found hne, hagree found hfound]

end AgreeOn

/-- Only at these places something has changed, and no directory is lost. -/
structure Touches (places : Place → Prop) (tree later : Tree) : Prop where
  keeps : KeepsDirectories tree later
  frame : ∀ place, ¬ places place → later.get? place = tree.get? place

namespace Touches

variable {places : Place → Prop} {tree middle later : Tree}

theorem refl (places : Place → Prop) (tree : Tree) : Touches places tree tree :=
  ⟨.refl tree, fun _ _ => rfl⟩

theorem trans (hfirst : Touches places tree middle) (hsecond : Touches places middle later) :
    Touches places tree later :=
  ⟨hfirst.keeps.trans hsecond.keeps, fun place hplace =>
    (hsecond.frame place hplace).trans (hfirst.frame place hplace)⟩

theorem insert {place : Place} (hplace : places place) (hne : place ≠ []) (node : Node)
    (hfree : tree.get? place ≠ some .directory) : Touches places tree (tree.insert place node) := by
  refine ⟨keepsDirectories_insert hne hfree, fun other hother => ?_⟩
  rw [get?_insert tree place other node hne, if_neg]
  intro heq
  exact hother (heq ▸ hplace)

theorem erase {place : Place} (hplace : places place) (hne : place ≠ [])
    (hfree : tree.get? place ≠ some .directory) : Touches places tree (tree.erase place) := by
  refine ⟨keepsDirectories_erase hne hfree, fun other hother => ?_⟩
  rw [get?_erase tree place other hne, if_neg]
  intro heq
  exact hother (heq ▸ hplace)

end Touches

/-- The directory is there, so that making it again changes nothing. -/
structure Ready (tree : Tree) (directory : String) (whole : Place) : Prop where
  found : tree.directoryAt (Path.names directory) = .ok whole
  made : tree.prepare directory = (tree, .ok ())

theorem Ready.of_keeps {directory : String} {whole : Place} {tree later : Tree}
    (hready : tree.Ready directory whole) (hkeeps : KeepsDirectories tree later) :
    later.Ready directory whole :=
  ⟨directoryAt_of_keeps hkeeps hready.found, prepare_ok_again hready.made hkeeps⟩

def Own (whole : Place) (stem : String) (place : Place) : Prop :=
  place = whole ++ [stem ++ ".rs"] ∨ place = whole ++ [stem ++ ".rs.tmp"]

section

variable {directory stem : String} {whole : Place} {tree other : Tree}

theorem prepare_step (hstem : Path.IsStem stem) (content : String) :
    makingParents.step (Path.join directory (stem ++ ".rs")) content tree =
      match tree.prepare directory with
      | (next, .ok ()) => (next, .writingTemporary)
      | (next, .error fault) =>
          (next, .done (.error (.writeFailed (Path.outer directory) fault))) := by
  have hplain : Path.IsPlain (stem ++ ".rs") := hstem.isPlain_append (by decide) (by decide)
  simp only [step_makingParents, Path.parent?_join directory hplain, prepare]
  split
  · rfl
  · rfl

/-- What one step of writing does on two trees that hold the same at its places: nothing, or the
same at one or both of these places. -/
inductive StepsAlike (places : Place → Prop) (tree other : Tree) :
    Tree × Writing → Tree × Writing → Prop
  | idle (writing : Writing) : StepsAlike places tree other (tree, writing) (other, writing)
  | put (place : Place) (node : Node) (writing : Writing) (own : places place)
      (nonroot : place ≠ []) (free : tree.get? place ≠ some .directory) :
      StepsAlike places tree other (tree.insert place node, writing)
        (other.insert place node, writing)
  | dropped (place : Place) (writing : Writing) (own : places place) (nonroot : place ≠ [])
      (free : tree.get? place ≠ some .directory) :
      StepsAlike places tree other (tree.erase place, writing) (other.erase place, writing)
  | moved (source place : Place) (node : Node) (writing : Writing) (ownSource : places source)
      (own : places place) (nonrootSource : source ≠ []) (nonroot : place ≠ [])
      (freeSource : tree.get? source ≠ some .directory)
      (free : tree.get? place ≠ some .directory) :
      StepsAlike places tree other ((tree.erase source).insert place node, writing)
        ((other.erase source).insert place node, writing)

namespace StepsAlike

variable {places : Place → Prop} {next later : Tree × Writing}

theorem writing_eq (halike : StepsAlike places tree other next later) : next.2 = later.2 := by
  cases halike <;> rfl

theorem agree (halike : StepsAlike places tree other next later)
    (hagree : AgreeOn places tree other) : AgreeOn places next.1 later.1 := by
  cases halike with
  | idle => exact hagree
  | put place node _ _ nonroot => exact hagree.insert nonroot node
  | dropped place _ _ nonroot => exact hagree.erase nonroot
  | moved source place node _ _ _ nonrootSource nonroot =>
      exact (hagree.erase nonrootSource).insert nonroot node

theorem touches (halike : StepsAlike places tree other next later) :
    Touches places tree next.1 := by
  cases halike with
  | idle => exact .refl places tree
  | put place node _ own nonroot free => exact .insert own nonroot node free
  | dropped place _ own nonroot free => exact .erase own nonroot free
  | moved source place node _ ownSource own nonrootSource nonroot freeSource free =>
      apply (Touches.erase ownSource nonrootSource freeSource).trans
      apply Touches.insert own nonroot
      rw [get?_erase tree source place nonrootSource]
      split
      · simp
      · exact free

end StepsAlike

theorem steps_alike (hready : tree.Ready directory whole) (hother : other.Ready directory whole)
    (hstem : Path.IsStem stem) (hagree : AgreeOn (Own whole stem) tree other) (content : String)
    (writing : Writing) :
    StepsAlike (Own whole stem) tree other
      (writing.step (Path.join directory (stem ++ ".rs")) content tree)
      (writing.step (Path.join directory (stem ++ ".rs")) content other) := by
  have hplain : Path.IsPlain (stem ++ ".rs") := hstem.isPlain_append (by decide) (by decide)
  have htemporary : Path.IsPlain (stem ++ ".rs.tmp") :=
    hstem.isPlain_append (by decide) (by decide)
  have hpath := Path.temporaryPath_join directory hstem
  have hne : ∀ name : String, whole ++ [name] ≠ [] := by simp
  cases writing with
  | makingParents =>
      rw [prepare_step hstem, prepare_step hstem, hready.made, hother.made]
      exact .idle _
  | writingTemporary =>
      rcases write_alike hready.found hother.found htemporary (hagree _ (.inr rfl)) content with
        ⟨fault, hwrite, hotherWrite⟩ | ⟨hwrite, hotherWrite, hfree⟩
      · simp only [step_writingTemporary, hpath, hwrite, hotherWrite]
        exact .idle _
      · simp only [step_writingTemporary, hpath, hwrite, hotherWrite]
        exact .put _ _ _ (.inr rfl) (hne _) hfree
  | replacing =>
      have hdifferent : stem ++ ".rs.tmp" ≠ stem ++ ".rs" := by
        intro heq
        exact absurd ((String.append_right_inj stem).mp heq) (by decide)
      rcases rename_alike hready.found hother.found htemporary hplain hdifferent
          (hagree _ (.inr rfl)) (hagree _ (.inl rfl)) with
        ⟨fault, hrename, hotherRename⟩ | ⟨node, hrename, hotherRename, hsource, hfree⟩
      · simp only [step_replacing, hpath, hrename, hotherRename]
        exact .idle _
      · simp only [step_replacing, hpath, hrename, hotherRename]
        exact .moved _ _ _ _ (.inr rfl) (.inl rfl) (hne _) (hne _) hsource hfree
  | cleaning failure =>
      rcases remove_alike hready.found hother.found htemporary (hagree _ (.inr rfl)) with
        ⟨fault, hremove, hotherRemove⟩ | ⟨hremove, hotherRemove, hfree⟩
      · simp only [step_cleaning, hpath, hremove, hotherRemove]
        exact .idle _
      · simp only [step_cleaning, hpath, hremove, hotherRemove]
        exact .dropped _ _ (.inr rfl) (hne _) hfree
  | done result => exact .idle _

theorem step_touches (hready : tree.Ready directory whole) (hstem : Path.IsStem stem)
    (content : String) (writing : Writing) :
    Touches (Own whole stem) tree
      (writing.step (Path.join directory (stem ++ ".rs")) content tree).1 :=
  (steps_alike hready hready hstem (.refl _ tree) content writing).touches

end

end ProviderForge.Tree

namespace ProviderForge.Writing

theorem exists_result_of_turns {writing : Writing} (hturns : writing.turns = 0) :
    ∃ result, writing = .done result := by
  cases writing with
  | done result => exact ⟨result, rfl⟩
  | _ => simp [turns] at hturns

/-- What holds of every end, and before a step if behind it, always holds. -/
theorem step_induction (path content : String) {motive : Tree → Writing → Prop}
    (hdone : ∀ tree result, motive tree (.done result))
    (hstep : ∀ tree writing,
      motive (writing.step path content tree).1 (writing.step path content tree).2 →
        motive tree writing)
    (tree : Tree) (writing : Writing) : motive tree writing := by
  induction hcount : writing.turns using Nat.strongRecOn generalizing tree writing with
  | ind count ih =>
      by_cases hnone : writing.turns = 0
      · obtain ⟨result, rfl⟩ := exists_result_of_turns hnone
        exact hdone tree result
      · have hless := turns_step path content tree writing
        exact hstep tree writing (ih _ (by omega) _ _ rfl)

section

variable {directory stem : String} {whole : Tree.Place} {tree other : Tree}

/-- Writings of the same file end alike on trees that hold the same at its places. -/
theorem run_alike (hready : tree.Ready directory whole) (hother : other.Ready directory whole)
    (hstem : Path.IsStem stem) (hagree : Tree.AgreeOn (Tree.Own whole stem) tree other)
    (content : String) (writing : Writing) :
    let path := Path.join directory (stem ++ ".rs")
    (run path content (tree, writing)).2 = (run path content (other, writing)).2 ∧
      Tree.AgreeOn (Tree.Own whole stem) (run path content (tree, writing)).1
        (run path content (other, writing)).1 := by
  intro path
  induction tree, writing using step_induction path content generalizing other with
  | hdone tree result => simpa using hagree
  | hstep tree writing ih =>
      have halike := Tree.steps_alike hready hother hstem hagree content writing
      have hlater := hother.of_keeps (Tree.step_touches hother hstem content writing).keeps
      have hsame := halike.writing_eq
      have hnext := hready.of_keeps halike.touches.keeps
      have hstill := halike.agree hagree
      rw [← Tree.run_step path content tree, ← Tree.run_step path content other]
      dsimp only [path] at hlater ih ⊢
      generalize writing.step (Path.join directory (stem ++ ".rs")) content tree = next at *
      generalize writing.step (Path.join directory (stem ++ ".rs")) content other = later at *
      obtain ⟨tree, writing⟩ := next
      obtain ⟨other, _⟩ := later
      obtain rfl := hsame
      exact ih hnext hlater hstill

end

end ProviderForge.Writing

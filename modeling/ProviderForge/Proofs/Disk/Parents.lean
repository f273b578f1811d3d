import ProviderForge.Proofs.Disk.Write

namespace ProviderForge

open Result

namespace Path

private theorem intercalate_leading {path : String} {front : List String} (hne : front ≠ [])
    (hfront : front <+: pieces path) :
    (String.intercalate "/" front).toList <+: path.toList := by
  obtain ⟨rest, hrest⟩ := hfront
  rw [← intercalate_pieces path, ← hrest]
  cases rest with
  | nil => simp
  | cons next rest =>
      rw [String.intercalate_append_of_ne_nil hne (List.cons_ne_nil next rest)]
      simp [List.append_assoc]

theorem parent?_leading {path parent : String} (hparent : parent? path = some parent) :
    parent.toList <+: path.toList := by
  obtain ⟨before, last, hsplit⟩ := split_of_parent? hparent
  have hpieces := pieces_eq_of_split hsplit
  unfold parent? at hparent
  simp only [hsplit, Option.bind_eq_bind, Option.bind_some] at hparent
  cases hbefore : before.reverse with
  | nil =>
      simp only [hbefore, Option.some.injEq] at hparent
      subst hparent
      exact List.nil_prefix
  | cons first rest =>
      simp only [hbefore, Option.some.injEq] at hparent
      rw [hbefore] at hpieces
      split at hparent
      next hroot =>
        -- the root is the only parent whose slash the pieces before it do not show
        have hfirst : first = "" := (List.cons.inj (eq_of_beq hroot)).1
        subst hparent hfirst
        obtain ⟨behind, hbehind⟩ := hpieces
        rw [← intercalate_pieces path, ← hbehind, List.cons_append, List.cons_append,
          String.intercalate_cons_of_ne_nil (by simp)]
        simp
      next =>
        subst hparent
        apply intercalate_leading (List.cons_ne_nil _ _)
        have hsuffix := List.reverse_prefix.mpr (List.dropWhile_suffix isIdle (l := rest.reverse))
        rw [List.reverse_reverse] at hsuffix
        exact ((List.prefix_cons_inj first).mpr hsuffix).trans
          ((List.prefix_append _ _).trans hpieces)

theorem names_parent?_init {path parent last : String} {before : List String}
    (hparent : parent? path = some parent) (hnames : names path = before ++ [last]) :
    names parent <+: before := by
  obtain ⟨earlier, name, hsplit⟩ := split_of_parent? hparent
  have hname := split_last_ne_empty hsplit
  have hfront := names_parent_leading hsplit hparent
  have hwhole : earlier.reverse.filter (fun piece => !piece.isEmpty) ++ [name] <+:
      before ++ [last] := by
    have hfilter := (pieces_eq_of_split hsplit).filter fun piece => !piece.isEmpty
    simp only [List.filter_append, List.filter_cons, hname, List.filter_nil] at hfilter
    exact hnames ▸ hfilter
  apply hfront.trans
  apply List.prefix_of_prefix_length_le ((List.prefix_append _ _).trans hwhole)
    (List.prefix_append _ _)
  have hlength := hwhole.length_le
  rw [List.length_append, List.length_append] at hlength
  exact Nat.le_of_add_le_add_right hlength

theorem isTellable_of_leading {path front : String} (hfront : front.toList <+: path.toList)
    (htellable : isTellable path = true) : isTellable front = true := by
  unfold isTellable at htellable ⊢
  simp only [Bool.not_eq_true', List.contains_eq_mem, decide_eq_false_iff_not] at htellable ⊢
  exact fun hmem => htellable (hfront.subset hmem)

theorem utf8ByteSize_of_leading {path front : String} (hfront : front.toList <+: path.toList) :
    front.utf8ByteSize ≤ path.utf8ByteSize := by
  obtain ⟨rest, hrest⟩ := hfront
  have hpath : path = front ++ String.ofList rest := by
    rw [← String.toList_inj]
    simp [hrest]
  rw [hpath, String.utf8ByteSize_append]
  exact Nat.le_add_right _ _

end Path

namespace Tree

theorem isDirectory_iff {tree : Tree} {path : String} :
    tree.isDirectory path = true ↔ tree.target path = .ok .existing ∨
      ∃ place, tree.Leads path place ∧ tree.get? place = some .directory := by
  have hfind : tree.isDirectory path = true ↔ tree.find path = .ok .directory := by
    unfold isDirectory
    split <;> simp_all
  rw [hfind, find_ok]
  simp

theorem isDirectory_of_keeps {tree later : Tree} (hkeeps : KeepsDirectories tree later)
    {path : String} (hdirectory : tree.isDirectory path = true) :
    later.isDirectory path = true := by
  rw [isDirectory_iff] at hdirectory ⊢
  rcases hdirectory with htarget | ⟨place, hleads, hplace⟩
  · exact .inl (target_of_keeps hkeeps htarget)
  · exact .inr ⟨place, hleads.of_keeps hkeeps, hkeeps place hplace⟩

theorem isDirectory_of_directoryAt {tree : Tree} {path : String} {place : Place}
    (hat : tree.directoryAt (Path.names path) = .ok place) (hne : path ≠ "")
    (htellable : Path.isTellable path = true) (hshort : path.utf8ByteSize < pathLimit) :
    tree.isDirectory path = true := by
  rw [isDirectory_iff]
  rcases List.eq_nil_or_concat (Path.names path) with hnil | ⟨before, last, hnames⟩
  · exact .inl (target_ok.mpr ⟨⟨htellable, hne, hshort⟩, .inl ⟨hnil, rfl⟩⟩)
  · rw [List.concat_eq_append] at hnames
    rw [hnames] at hat
    obtain ⟨outer, houter⟩ := directoryAt_prefix (List.prefix_append _ _) hat
    obtain ⟨hfold, hplace⟩ := directoryAt_ok.mp hat
    rw [List.foldlM_append, (directoryAt_ok.mp houter).1] at hfold
    have htarget := target_ok.mpr
      ⟨⟨htellable, hne, hshort⟩, .inr ⟨before, last, outer, hnames, houter, rfl⟩⟩
    by_cases hback : last = "." ∨ last = ".."
    · rw [if_pos hback] at htarget
      exact .inl htarget
    · rw [if_neg hback] at htarget
      exact .inr ⟨place, ⟨outer, last, htarget, by simpa using hfold⟩, hplace⟩

theorem isDirectory_of_ensureDirectory {tree next : Tree} {path : String}
    (hensure : tree.ensureDirectory path = .ok next) : next.isDirectory path = true := by
  unfold ensureDirectory at hensure
  cases hmake : tree.makeDirectory path with
  | ok made =>
      simp only [hmake, Except.ok.injEq] at hensure
      obtain ⟨place, hleads, hnone, rfl⟩ := makeDirectory_ok hmake
      have hne := hleads.ne_nil
      subst hensure
      rw [isDirectory_iff]
      refine .inr ⟨place, hleads.of_keeps (keepsDirectories_insert hne (by simp [hnone])), ?_⟩
      simp [get?_insert tree place place _ hne]
  | error fault =>
      simp only [hmake] at hensure
      split at hensure
      next hdirectory => exact Except.ok.inj hensure ▸ hdirectory
      next => simp at hensure

theorem ensureDirectory_of_isDirectory {tree : Tree} {path : String}
    (hdirectory : tree.isDirectory path = true) : tree.ensureDirectory path = .ok tree := by
  unfold ensureDirectory
  cases hmake : tree.makeDirectory path with
  | error fault => simp [hdirectory]
  | ok made =>
      obtain ⟨place, hleads, hnone, -⟩ := makeDirectory_ok hmake
      rcases isDirectory_iff.mp hdirectory with htarget | ⟨other, hother, hplace⟩
      · obtain ⟨directory, name, hnamed, -⟩ := hleads
        simp [htarget] at hnamed
      · rw [hleads.unique hother, hplace] at hnone
        simp at hnone

/-- What can be made has a parent that is there. -/
theorem isDirectory_parent {tree next : Tree} {path parent : String}
    (hensure : tree.ensureDirectory path = .ok next) (hparent : Path.parent? path = some parent)
    (hne : parent ≠ "") : tree.isDirectory parent = true := by
  have htarget : ∃ found, tree.target path = .ok found := by
    unfold ensureDirectory at hensure
    cases hmake : tree.makeDirectory path with
    | ok made =>
        obtain ⟨_, ⟨directory, name, htarget, -⟩, -⟩ := makeDirectory_ok hmake
        exact ⟨_, htarget⟩
    | error fault =>
        simp only [hmake] at hensure
        split at hensure
        next hdirectory =>
          rcases isDirectory_iff.mp hdirectory with htarget | ⟨_, ⟨directory, name, htarget, -⟩, -⟩
          · exact ⟨_, htarget⟩
          · exact ⟨_, htarget⟩
        next => simp at hensure
  obtain ⟨found, htarget⟩ := htarget
  obtain ⟨⟨htellable, -, hshort⟩, ⟨hnil, -⟩ | ⟨before, last, place, hnames, hplace, -⟩⟩ :=
    target_ok.mp htarget
  · obtain ⟨earlier, last, hsplit⟩ := Path.split_of_parent? hparent
    have hpiece := (Path.pieces_eq_of_split hsplit).subset
      (List.mem_append_right earlier.reverse (List.mem_singleton_self last))
    have hmem : last ∈ Path.names path :=
      List.mem_filter.mpr ⟨hpiece, by simp [Path.split_last_ne_empty hsplit]⟩
    simp [hnil] at hmem
  · have hleading := Path.parent?_leading hparent
    obtain ⟨outer, houter⟩ :=
      directoryAt_prefix (Path.names_parent?_init hparent hnames) hplace
    exact isDirectory_of_directoryAt houter hne (Path.isTellable_of_leading hleading htellable)
      (Nat.lt_of_le_of_lt (Path.utf8ByteSize_of_leading hleading) hshort)

theorem isDirectory_of_go {tree next : Tree} {path : String} {around : List String}
    (hgo : makeDirectories.go tree (path :: around) = (next, .ok ())) :
    next.isDirectory path = true := by
  unfold makeDirectories.go at hgo
  split at hgo
  next made hmade => exact (Prod.mk.inj hgo).1 ▸ isDirectory_of_ensureDirectory hmade
  next =>
    split at hgo
    · simp at hgo
    · split at hgo
      next last hlast => exact (Prod.mk.inj hgo).1 ▸ isDirectory_of_ensureDirectory hlast
      next => simp at hgo
  next => simp at hgo

theorem go_ok_again {tree next later : Tree} {paths : List String}
    (hgo : makeDirectories.go tree paths = (next, .ok ())) (hkeeps : KeepsDirectories next later) :
    makeDirectories.go later paths = (later, .ok ()) := by
  cases paths with
  | nil => rfl
  | cons path around =>
      unfold makeDirectories.go
      rw [ensureDirectory_of_isDirectory (isDirectory_of_keeps hkeeps (isDirectory_of_go hgo))]

theorem go_ancestors_parent {tree next : Tree} {path parent : String} {fuel : Nat}
    (hensure : tree.ensureDirectory path = .ok next)
    (hparent : Path.parent? path = some parent) :
    makeDirectories.go tree (ancestors fuel parent) = (tree, .ok ()) := by
  cases fuel with
  | zero => rfl
  | succ fuel =>
      unfold ancestors
      split
      · rfl
      next hne =>
        have hdirectory := isDirectory_parent hensure hparent (by simpa using hne)
        unfold makeDirectories.go
        rw [ensureDirectory_of_isDirectory hdirectory]

theorem go_error_again {tree next : Tree} {path : String} {fuel : Nat} {fault : FileFault}
    (hgo : makeDirectories.go tree (ancestors fuel path) = (next, .error fault)) :
    ∃ other, makeDirectories.go next (ancestors fuel path) = (next, .error other) := by
  induction fuel generalizing tree next path fault with
  | zero => simp [ancestors, makeDirectories.go] at hgo
  | succ fuel ih =>
      unfold ancestors at hgo ⊢
      split at hgo
      · simp [makeDirectories.go] at hgo
      next hne =>
        rw [if_neg hne]
        unfold makeDirectories.go at hgo
        split at hgo
        · simp at hgo
        next hmissing =>
          split at hgo
          next middle inner hinner =>
            -- the fault is around: what is around fails again, and so the path cannot be made
            obtain ⟨rfl, hfault⟩ := Prod.mk.inj hgo
            cases hparent : Path.parent? path with
            | none =>
                simp [hparent, makeDirectories.go] at hinner
            | some parent =>
                simp only [hparent] at hinner ⊢
                obtain ⟨other, hother⟩ := ih hinner
                cases hagain : middle.ensureDirectory path with
                | ok made =>
                    rw [go_ancestors_parent hagain hparent] at hother
                    simp at hother
                | error again =>
                    unfold makeDirectories.go
                    rw [hagain]
                    cases again <;> simp [hother]
          next middle hinner =>
            split at hgo
            · simp at hgo
            next again hagain =>
              obtain ⟨rfl, hfault⟩ := Prod.mk.inj hgo
              unfold makeDirectories.go
              rw [hagain, go_ok_again hinner (.refl middle)]
              cases again <;> simp [hagain]
        next other _ hfault =>
          obtain ⟨rfl, -⟩ := Prod.mk.inj hgo
          unfold makeDirectories.go
          rw [hfault]
          cases other <;> simp_all

theorem makeDirectories_ok_again {tree next later : Tree} {path : String}
    (hmake : tree.makeDirectories path = (next, .ok ())) (hkeeps : KeepsDirectories next later) :
    later.makeDirectories path = (later, .ok ()) :=
  go_ok_again hmake hkeeps

theorem makeDirectories_error_again {tree next : Tree} {path : String} {fault : FileFault}
    (hmake : tree.makeDirectories path = (next, .error fault)) :
    ∃ other, next.makeDirectories path = (next, .error other) :=
  go_error_again hmake

private theorem ancestors_cons {path : String} (hne : path ≠ "") :
    ∃ around, ancestors (path.length + 1) path = path :: around := by
  unfold ancestors
  rw [if_neg (by simpa using hne)]
  exact ⟨_, rfl⟩

theorem makeDirectories_of_isDirectory {tree : Tree} {path : String} (hne : path ≠ "")
    (hdirectory : tree.isDirectory path = true) : tree.makeDirectories path = (tree, .ok ()) := by
  obtain ⟨around, hancestors⟩ := ancestors_cons hne
  unfold makeDirectories
  rw [hancestors, makeDirectories.go, ensureDirectory_of_isDirectory hdirectory]

end Tree

namespace Path

def outer (directory : String) : String :=
  match around directory with
  | [] => ""
  | first :: rest =>
      let kept := first :: (rest.reverse.dropWhile isIdle).reverse
      if kept == [""] then "/" else String.intercalate "/" kept

theorem parent?_join (directory : String) {name : String} (hplain : IsPlain name) :
    parent? (join directory name) = some (outer directory) := by
  unfold parent? outer
  simp only [split_join directory hplain, Option.bind_eq_bind, Option.bind_some,
    List.reverse_reverse]
  cases around directory <;> rfl

end Path

namespace Tree

def prepare (tree : Tree) (directory : String) : Tree × Except FileFault Unit :=
  if (Path.outer directory).isEmpty then (tree, .ok ())
  else tree.makeDirectories (Path.outer directory)

theorem prepare_ok_again {tree next later : Tree} {directory : String}
    (hprepare : tree.prepare directory = (next, .ok ())) (hkeeps : KeepsDirectories next later) :
    later.prepare directory = (later, .ok ()) := by
  unfold prepare at hprepare ⊢
  split
  next => rfl
  next hne =>
    rw [if_neg hne] at hprepare
    exact makeDirectories_ok_again hprepare hkeeps

theorem prepare_error_again {tree next : Tree} {directory : String} {fault : FileFault}
    (hprepare : tree.prepare directory = (next, .error fault)) :
    ∃ other, next.prepare directory = (next, .error other) := by
  unfold prepare at hprepare ⊢
  split
  next hempty => simp [hempty] at hprepare
  next hne =>
    rw [if_neg hne] at hprepare
    exact makeDirectories_error_again hprepare

end Tree

end ProviderForge

import ProviderForge.Proofs.Disk.Path
import ProviderForge.Proofs.Result

namespace ProviderForge.Tree

open Result

@[simp] theorem get?_nil (tree : Tree) : tree.get? [] = some .directory := rfl

theorem get?_erase (tree : Tree) (place other : Place) (hne : place ≠ []) :
    (tree.erase place).get? other = if other = place then none else tree.get? other := by
  by_cases hnil : other = []
  · subst hnil
    simp [Ne.symm hne]
  have hempty : other.isEmpty = false := by simpa using hnil
  by_cases heq : other = place
  · subst heq
    simp only [get?, hempty, erase, if_true, Bool.false_eq_true, if_false]
    rw [List.find?_eq_none.mpr]
    · rfl
    · intro entry hentry
      simp only [List.mem_filter, bne_iff_ne] at hentry
      simpa using hentry.2
  · simp only [get?, hempty, erase, heq, Bool.false_eq_true, if_false]
    congr 1
    rw [List.find?_filter]
    congr 1
    funext entry
    by_cases hentry : entry.1 = other <;> simp [hentry, heq]

theorem get?_insert (tree : Tree) (place other : Place) (node : Node) (hne : place ≠ []) :
    (tree.insert place node).get? other =
      if other = place then some node else tree.get? other := by
  have herase := get?_erase tree place other hne
  by_cases hnil : other = []
  · subst hnil
    simp [Ne.symm hne]
  have hempty : other.isEmpty = false := by simpa using hnil
  simp only [get?, hempty, Bool.false_eq_true, if_false] at herase ⊢
  rw [insert, List.find?_append]
  by_cases heq : other = place
  · subst heq
    simp only [if_true, Option.map_eq_none_iff] at herase ⊢
    simp [herase]
  · simp only [heq, if_false] at herase ⊢
    rw [← herase]
    simp [Ne.symm heq]

def KeepsDirectories (tree later : Tree) : Prop :=
  ∀ place, tree.get? place = some .directory → later.get? place = some .directory

theorem KeepsDirectories.refl (tree : Tree) : KeepsDirectories tree tree :=
  fun _ hplace => hplace

theorem KeepsDirectories.trans {tree middle later : Tree}
    (hfirst : KeepsDirectories tree middle) (hsecond : KeepsDirectories middle later) :
    KeepsDirectories tree later :=
  fun place hplace => hsecond place (hfirst place hplace)

theorem keepsDirectories_insert {tree : Tree} {place : Place} {node : Node} (hne : place ≠ [])
    (hplace : tree.get? place ≠ some .directory) :
    KeepsDirectories tree (tree.insert place node) := by
  intro other hother
  rw [get?_insert tree place other node hne]
  split
  next heq => exact absurd (heq ▸ hother) hplace
  next => exact hother

theorem keepsDirectories_erase {tree : Tree} {place : Place} (hne : place ≠ [])
    (hplace : tree.get? place ≠ some .directory) :
    KeepsDirectories tree (tree.erase place) := by
  intro other hother
  rw [get?_erase tree place other hne]
  split
  next heq => exact absurd (heq ▸ hother) hplace
  next => exact hother

theorem follow_ok {tree : Tree} {place next : Place} {name : String}
    (hfollow : tree.follow place name = .ok next) :
    tree.get? place = some .directory := by
  unfold follow at hfollow
  cases hplace : tree.get? place with
  | none => simp [hplace] at hfollow
  | some node =>
      cases node with
      | directory => rfl
      | file content => simp [hplace] at hfollow

theorem follow_of_keeps {tree later : Tree} (hkeeps : KeepsDirectories tree later)
    {place next : Place} {name : String} (hfollow : tree.follow place name = .ok next) :
    later.follow place name = .ok next := by
  have hplace := follow_ok hfollow
  unfold follow at hfollow ⊢
  rw [hkeeps place hplace]
  rwa [hplace] at hfollow

theorem follow_name {tree : Tree} {place next : Place} {name : String}
    (hfollow : tree.follow place name = .ok next) (hpoint : name ≠ ".") (hpoints : name ≠ "..") :
    next = place ++ [name] := by
  have hplace := follow_ok hfollow
  simp only [follow, hplace, beq_iff_eq, hpoint, hpoints, if_false] at hfollow
  split at hfollow
  · simp at hfollow
  · exact (pure_eq_ok.mp hfollow).symm

theorem foldlM_follow_of_keeps {tree later : Tree} (hkeeps : KeepsDirectories tree later)
    {names : List String} {start place : Place}
    (hfold : names.foldlM (tree.follow ·) start = .ok place) :
    names.foldlM (later.follow ·) start = .ok place := by
  induction names generalizing start with
  | nil => exact hfold
  | cons name rest ih =>
      simp only [List.foldlM_cons, bind_eq_ok] at hfold ⊢
      obtain ⟨next, hname, hrest⟩ := hfold
      exact ⟨next, follow_of_keeps hkeeps hname, ih hrest⟩

theorem directoryAt_ok {tree : Tree} {names : List String} {place : Place} :
    tree.directoryAt names = .ok place ↔
      names.foldlM (tree.follow ·) [] = .ok place ∧ tree.get? place = some .directory := by
  simp only [directoryAt, bind_eq_ok]
  constructor
  · rintro ⟨found, hfold, hfound⟩
    split at hfound
    next hdirectory =>
      obtain rfl := pure_eq_ok.mp hfound
      exact ⟨hfold, hdirectory⟩
    next => simp at hfound
    next => simp at hfound
  · rintro ⟨hfold, hdirectory⟩
    exact ⟨place, hfold, by simp [hdirectory]⟩

theorem directoryAt_of_keeps {tree later : Tree} (hkeeps : KeepsDirectories tree later)
    {names : List String} {place : Place} (hat : tree.directoryAt names = .ok place) :
    later.directoryAt names = .ok place := by
  rw [directoryAt_ok] at hat ⊢
  exact ⟨foldlM_follow_of_keeps hkeeps hat.1, hkeeps place hat.2⟩

theorem directoryAt_prefix {tree : Tree} {front names : List String} {place : Place}
    (hfront : front <+: names) (hat : tree.directoryAt names = .ok place) :
    ∃ outer, tree.directoryAt front = .ok outer := by
  obtain ⟨rest, rfl⟩ := hfront
  rw [directoryAt_ok, List.foldlM_append, bind_eq_ok] at hat
  obtain ⟨⟨outer, hfront, hrest⟩, hplace⟩ := hat
  refine ⟨outer, directoryAt_ok.mpr ⟨hfront, ?_⟩⟩
  cases rest with
  | nil => exact pure_eq_ok.mp hrest ▸ hplace
  | cons name rest =>
      rw [List.foldlM_cons, bind_eq_ok] at hrest
      obtain ⟨next, hname, -⟩ := hrest
      exact follow_ok hname

/-- The path names this place, in a directory that is there. -/
def Leads (tree : Tree) (path : String) (place : Place) : Prop :=
  ∃ directory name, tree.target path = .ok (.named directory name) ∧
    tree.follow directory name = .ok place

/-- A path that its text does not rule out leads to the last of its names in the directory of the
others, or to what is there, where that name leads back. -/
theorem target_ok {tree : Tree} {path : String} {found : Target} :
    tree.target path = .ok found ↔
      (Path.isTellable path = true ∧ path ≠ "" ∧ path.utf8ByteSize < pathLimit) ∧
        ((Path.names path = [] ∧ found = .existing) ∨
          ∃ before last directory, Path.names path = before ++ [last] ∧
            tree.directoryAt before = .ok directory ∧
            found = if last = "." ∨ last = ".." then .existing else .named directory last) := by
  by_cases htext : Path.isTellable path = true ∧ path ≠ "" ∧ path.utf8ByteSize < pathLimit
  · obtain ⟨htellable, hne, hshort⟩ := htext
    simp only [target, htellable, hne, Nat.not_le_of_lt hshort, hshort, Bool.not_true,
      String.isEmpty_iff, Bool.false_eq_true, if_false, ne_eq, not_false_eq_true,
      and_self, true_and]
    cases hnames : (Path.names path).reverse with
    | nil =>
        simp only [List.reverse_eq_nil_iff.mp hnames, pure_eq_ok, true_and, List.nil_eq,
          List.append_eq_nil_iff, List.cons_ne_nil, and_false, false_and, exists_false, or_false]
        exact eq_comm
    | cons last before =>
        have hwhole : Path.names path = before.reverse ++ [last] := by
          rw [← List.reverse_cons, ← hnames, List.reverse_reverse]
        rw [hwhole, bind_eq_ok]
        constructor
        · rintro ⟨directory, hat, hfound⟩
          refine .inr ⟨before.reverse, last, directory, rfl, hat, ?_⟩
          split at hfound
          next hback => rw [if_pos (by simpa using hback), pure_eq_ok.mp hfound]
          next hback => rw [if_neg (by simpa using hback), pure_eq_ok.mp hfound]
        · rintro (⟨hnil, -⟩ | ⟨front, name, directory, hfront, hat, rfl⟩)
          · simp at hnil
          · obtain ⟨rfl, hlast⟩ := List.append_inj' hfront rfl
            obtain rfl := List.singleton_inj.mp hlast
            refine ⟨directory, hat, ?_⟩
            split
            next hback => rw [if_pos (by simpa using hback)]; rfl
            next hback => rw [if_neg (by simpa using hback)]; rfl
  · refine iff_of_false ?_ fun hfound => htext hfound.1
    intro htarget
    apply htext
    unfold target at htarget
    split at htarget
    · simp at htarget
    next htellable =>
      split at htarget
      · simp at htarget
      next hempty =>
        split at htarget
        · simp at htarget
        next hlong =>
          exact ⟨by simpa using htellable, by simpa using hempty, Nat.lt_of_not_le hlong⟩

theorem target_of_keeps {tree later : Tree} (hkeeps : KeepsDirectories tree later)
    {path : String} {found : Target} (htarget : tree.target path = .ok found) :
    later.target path = .ok found := by
  rw [target_ok] at htarget ⊢
  obtain ⟨htext, hnone | ⟨before, last, directory, hnames, hat, hfound⟩⟩ := htarget
  · exact ⟨htext, .inl hnone⟩
  · exact ⟨htext, .inr ⟨before, last, directory, hnames, directoryAt_of_keeps hkeeps hat, hfound⟩⟩

theorem target_named {tree : Tree} {path name : String} {directory : Place}
    (htarget : tree.target path = .ok (.named directory name)) :
    ∃ before, Path.names path = before ++ [name] ∧
      tree.directoryAt before = .ok directory ∧ name ≠ "." ∧ name ≠ ".." := by
  obtain ⟨-, ⟨-, hfound⟩ | ⟨before, last, found, hnames, hat, hfound⟩⟩ := target_ok.mp htarget
  · simp at hfound
  · split at hfound
    · simp at hfound
    next hback =>
      obtain ⟨rfl, rfl⟩ := Target.named.inj hfound
      exact ⟨before, hnames, hat, not_or.mp hback⟩

theorem Leads.of_keeps {tree later : Tree} (hkeeps : KeepsDirectories tree later)
    {path : String} {place : Place} (hleads : tree.Leads path place) : later.Leads path place := by
  obtain ⟨directory, name, htarget, hfollow⟩ := hleads
  exact ⟨directory, name, target_of_keeps hkeeps htarget, follow_of_keeps hkeeps hfollow⟩

theorem Leads.unique {tree : Tree} {path : String} {first second : Place}
    (hfirst : tree.Leads path first) (hsecond : tree.Leads path second) : first = second := by
  obtain ⟨directory, name, htarget, hfollow⟩ := hfirst
  obtain ⟨other, otherName, hother, hotherFollow⟩ := hsecond
  rw [htarget] at hother
  simp only [Except.ok.injEq, Target.named.injEq] at hother
  obtain ⟨rfl, rfl⟩ := hother
  rw [hfollow] at hotherFollow
  exact Except.ok.inj hotherFollow

theorem Leads.exists_names {tree : Tree} {path : String} {place : Place}
    (hleads : tree.Leads path place) :
    ∃ before name directory, Path.names path = before ++ [name] ∧
      tree.directoryAt before = .ok directory ∧ tree.follow directory name = .ok place ∧
      place = directory ++ [name] := by
  obtain ⟨directory, name, htarget, hfollow⟩ := hleads
  obtain ⟨before, hnames, hat, hpoint, hpoints⟩ := target_named htarget
  exact ⟨before, name, directory, hnames, hat, hfollow, follow_name hfollow hpoint hpoints⟩

theorem Leads.ne_nil {tree : Tree} {path : String} {place : Place}
    (hleads : tree.Leads path place) : place ≠ [] := by
  obtain ⟨before, name, directory, -, -, -, rfl⟩ := hleads.exists_names
  simp

theorem Leads.join {tree : Tree} {directory name : String} {place : Place}
    (hplain : Path.IsPlain name) (hleads : tree.Leads (Path.join directory name) place) :
    ∃ outer, tree.directoryAt (Path.names directory) = .ok outer ∧ place = outer ++ [name] := by
  obtain ⟨before, last, outer, hnames, hat, -, rfl⟩ := hleads.exists_names
  rw [Path.names_join directory hplain] at hnames
  obtain ⟨rfl, hlast⟩ := List.append_inj' hnames rfl
  exact ⟨outer, hat, by rw [List.singleton_inj.mp hlast]⟩

theorem Leads.getLast?_join {tree : Tree} {directory name : String} {place : Place}
    (hplain : Path.IsPlain name) (hleads : tree.Leads (Path.join directory name) place) :
    place.getLast? = some name := by
  obtain ⟨outer, -, rfl⟩ := hleads.join hplain
  exact List.getLast?_concat

end ProviderForge.Tree

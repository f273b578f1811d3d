import ProviderForge.Disk.Write

namespace ProviderForge.Path

theorem endsWith_iff {text ending : String} :
    text.endsWith ending = true ↔ ending.toList <:+ text.toList := by
  rw [← String.endsWith_toSlice, String.Slice.endsWith_string_iff, String.copy_toSlice]

private theorem not_mem_of_mem_splitOn {mark : Char} {text piece : List Char}
    (hpiece : piece ∈ text.splitOn mark) : mark ∉ piece := by
  induction text generalizing piece with
  | nil =>
      simp only [List.splitOn_nil, List.mem_singleton] at hpiece
      simp [hpiece]
  | cons first rest ih =>
      rw [List.splitOn_cons_eq_if_modifyHead] at hpiece
      by_cases heq : first = mark
      · simp only [heq, beq_self_eq_true, if_true, List.mem_cons] at hpiece
        rcases hpiece with rfl | hpiece
        · simp
        · exact ih hpiece
      · cases hrest : rest.splitOn mark with
        | nil => exact absurd hrest (List.splitOn_ne_nil mark rest)
        | cons head tail =>
            simp only [hrest, beq_iff_eq, heq, if_false, List.modifyHead_cons,
              List.mem_cons] at hpiece
            rcases hpiece with rfl | hpiece
            · have hhead : mark ∉ head := ih (by simp [hrest])
              simpa [Ne.symm heq] using hhead
            · exact ih (by simp [hrest, hpiece])

theorem pieces_ne_nil (path : String) : pieces path ≠ [] := by
  simp [pieces, cut]

theorem mark_not_mem {mark : Char} {text piece : String} (hpiece : piece ∈ cut mark text) :
    mark ∉ piece.toList := by
  obtain ⟨letters, hletters, rfl⟩ := List.mem_map.mp hpiece
  simpa using not_mem_of_mem_splitOn hletters

theorem slash_not_mem {path piece : String} (hpiece : piece ∈ pieces path) :
    '/' ∉ piece.toList :=
  mark_not_mem hpiece

theorem intercalate_cut (mark : Char) (text : String) :
    String.intercalate (String.singleton mark) (cut mark text) = text := by
  rw [← String.toList_inj, String.toList_intercalate, cut, List.map_map]
  have hsame : String.toList ∘ String.ofList = id := by
    funext letters
    simp
  rw [hsame, List.map_id, String.toList_singleton]
  exact List.intercalate_splitOn mark

theorem intercalate_pieces (path : String) :
    String.intercalate "/" (pieces path) = path :=
  intercalate_cut '/' path

theorem pieces_intercalate {parts : List String} (hne : parts ≠ [])
    (hslash : ∀ part ∈ parts, '/' ∉ part.toList) :
    pieces (String.intercalate "/" parts) = parts := by
  have hletters : ∀ letters ∈ parts.map String.toList, '/' ∉ letters := by
    intro letters hmem
    obtain ⟨part, hpart, rfl⟩ := List.mem_map.mp hmem
    exact hslash part hpart
  have hsplit := List.splitOn_intercalate '/' hletters (by simpa using hne)
  rw [pieces, cut, String.toList_intercalate]
  change (List.map String.ofList ((['/'].intercalate (parts.map String.toList)).splitOn '/')) = _
  rw [hsplit, List.map_map]
  have hsame : String.ofList ∘ String.toList = id := by
    funext text
    simp
  rw [hsame, List.map_id]

theorem pieces_append (before after : String) :
    pieces (before ++ "/" ++ after) = pieces before ++ pieces after := by
  have hletters : (before ++ "/" ++ after).toList =
      before.toList ++ '/' :: after.toList := by simp
  rw [pieces, cut, hletters, List.splitOn_append_cons_self, List.map_append]
  rfl

theorem pieces_eq_singleton {name : String} (hslash : '/' ∉ name.toList) :
    pieces name = [name] := by
  simp [pieces, cut, List.splitOn_eq_singleton hslash]

theorem cut_append (mark : Char) (before after : String) :
    cut mark (before ++ String.singleton mark ++ after) = cut mark before ++ cut mark after := by
  have hletters : (before ++ String.singleton mark ++ after).toList =
      before.toList ++ mark :: after.toList := by simp
  rw [cut, hletters, List.splitOn_append_cons_self, List.map_append]
  rfl

theorem cut_eq_singleton {mark : Char} {text : String} (hmark : mark ∉ text.toList) :
    cut mark text = [text] := by
  simp [cut, List.splitOn_eq_singleton hmark]

/-- A name that leads from a directory to something in it. -/
structure IsPlain (name : String) : Prop where
  slash_not_mem : '/' ∉ name.toList
  not_idle : isIdle name = false
  not_parent : name ≠ ".."

theorem IsPlain.ne_empty {name : String} (hplain : IsPlain name) : name ≠ "" := by
  rintro rfl
  exact absurd hplain.not_idle (by decide)

theorem IsPlain.ne_point {name : String} (hplain : IsPlain name) : name ≠ "." := by
  rintro rfl
  exact absurd hplain.not_idle (by decide)

def around (directory : String) : List String :=
  if directory.isEmpty then []
  else if directory.endsWith "/" then (pieces directory).dropLast
  else pieces directory

theorem pieces_join (directory : String) {name : String} (hslash : '/' ∉ name.toList) :
    pieces (join directory name) = around directory ++ [name] := by
  unfold join around
  by_cases hempty : directory.isEmpty
  · have hdirectory : directory = "" := String.isEmpty_iff.mp hempty
    simp [hdirectory, pieces_eq_singleton hslash]
  by_cases hends : directory.endsWith "/"
  · obtain ⟨letters, hletters⟩ := endsWith_iff.mp hends
    have hdirectory : directory = String.ofList letters ++ "/" ++ "" := by
      rw [← String.toList_inj]
      simpa using hletters.symm
    have hwhole : directory ++ name = String.ofList letters ++ "/" ++ name := by
      rw [hdirectory]
      simp
    have hlast : pieces "" = [""] := by decide
    simp only [hempty, hends, Bool.or_true, if_true, hwhole, pieces_append,
      pieces_eq_singleton hslash]
    rw [hdirectory, pieces_append, hlast]
    simp
  · have hpieces := pieces_append directory name
    rw [pieces_eq_singleton hslash] at hpieces
    simpa [hempty, hends] using hpieces

theorem filter_around (directory : String) :
    (around directory).filter (fun piece => !piece.isEmpty) = names directory := by
  unfold around names
  by_cases hempty : directory.isEmpty
  · have hdirectory : directory = "" := String.isEmpty_iff.mp hempty
    subst hdirectory
    decide
  by_cases hends : directory.endsWith "/"
  · obtain ⟨letters, hletters⟩ := endsWith_iff.mp hends
    have hdirectory : directory = String.ofList letters ++ "/" ++ "" := by
      rw [← String.toList_inj]
      simpa using hletters.symm
    have hlast : pieces "" = [""] := by decide
    simp only [hempty, hends, if_true, if_false, Bool.false_eq_true]
    rw [hdirectory, pieces_append, hlast]
    simp
  · simp [hempty, hends]

theorem names_join (directory : String) {name : String} (hplain : IsPlain name) :
    names (join directory name) = names directory ++ [name] := by
  rw [names, pieces_join directory hplain.slash_not_mem, List.filter_append, filter_around]
  simp [hplain.ne_empty]

theorem join_inj {directory first second : String} :
    join directory first = join directory second ↔ first = second := by
  unfold join
  split
  · exact String.append_right_inj directory
  · exact String.append_right_inj (directory ++ "/")

theorem intercalate_around (directory : String) {name : String} (hslash : '/' ∉ name.toList) :
    String.intercalate "/" (around directory ++ [name]) = join directory name := by
  rw [← pieces_join directory hslash, intercalate_pieces]

theorem split_of_pieces {path name : String} {front : List String}
    (hpieces : pieces path = front ++ [name]) (hidle : isIdle name = false) :
    split path = some (front.reverse, name) := by
  unfold split
  rw [hpieces]
  cases front with
  | nil =>
      have hname : name.isEmpty = false := (Bool.or_eq_false_iff.mp hidle).1
      simp [hname]
  | cons first rest => simp [hidle]

theorem split_join (directory : String) {name : String} (hplain : IsPlain name) :
    split (join directory name) = some ((around directory).reverse, name) :=
  split_of_pieces (pieces_join directory hplain.slash_not_mem) hplain.not_idle

/-- The pieces that are dropped from the end hold no name but points. -/
theorem exists_idle (rest : List String) :
    ∃ idle, rest = (rest.reverse.dropWhile isIdle).reverse ++ idle ∧
      ∀ name ∈ idle.filter (fun piece => !piece.isEmpty), name = "." := by
  refine ⟨(rest.reverse.takeWhile isIdle).reverse, ?_, fun name hname => ?_⟩
  · rw [← List.reverse_append, List.takeWhile_append_dropWhile, List.reverse_reverse]
  · obtain ⟨hmem, hempty⟩ := List.mem_filter.mp hname
    have hpiece := List.all_eq_true.mp List.all_takeWhile name (List.mem_reverse.mp hmem)
    simp only [isIdle, Bool.or_eq_true, beq_iff_eq] at hpiece
    exact hpiece.resolve_left (by simpa using hempty)

/-- The last name stands behind the pieces before it, and behind it nothing that says more. -/
theorem pieces_of_split {path last : String} {before : List String}
    (hsplit : split path = some (before, last)) :
    ∃ idle, pieces path = before.reverse ++ [last] ++ idle ∧
      ∀ name ∈ idle.filter (fun piece => !piece.isEmpty), name = "." := by
  unfold split at hsplit
  cases hpieces : pieces path with
  | nil => exact absurd hpieces (pieces_ne_nil path)
  | cons first rest =>
      obtain ⟨idle, hrest, hpoints⟩ := exists_idle rest
      refine ⟨idle, ?_, hpoints⟩
      simp only [hpieces] at hsplit
      cases hdrop : rest.reverse.dropWhile isIdle with
      | nil =>
          simp only [hdrop, List.reverse_nil, List.nil_append] at hsplit hrest
          split at hsplit
          · simp at hsplit
          · simp only [Option.some.injEq, Prod.mk.injEq] at hsplit
            obtain ⟨rfl, rfl⟩ := hsplit
            simp [hrest]
      | cons found earlier =>
          simp only [hdrop, Option.some.injEq, Prod.mk.injEq] at hsplit hrest
          obtain ⟨rfl, rfl⟩ := hsplit
          rw [hrest]
          simp

theorem split_last_ne_empty {path last : String} {before : List String}
    (hsplit : split path = some (before, last)) : last.isEmpty = false := by
  unfold split at hsplit
  cases hpieces : pieces path with
  | nil => exact absurd hpieces (pieces_ne_nil path)
  | cons first rest =>
      simp only [hpieces] at hsplit
      cases hdrop : rest.reverse.dropWhile isIdle with
      | nil =>
          simp only [hdrop] at hsplit
          split at hsplit
          · simp at hsplit
          next hfirst =>
            simp only [Option.some.injEq, Prod.mk.injEq] at hsplit
            exact hsplit.2 ▸ (Bool.not_eq_true _).mp hfirst
      | cons found earlier =>
          simp only [hdrop, Option.some.injEq, Prod.mk.injEq] at hsplit
          have hidle : isIdle last = false := by
            have hfound := List.head?_dropWhile_not isIdle rest.reverse
            rwa [hdrop, List.head?_cons, hsplit.2] at hfound
          exact (Bool.or_eq_false_iff.mp hidle).1

theorem names_of_split {path last : String} {before : List String}
    (hsplit : split path = some (before, last)) :
    ∃ points, names path =
        before.reverse.filter (fun piece => !piece.isEmpty) ++ [last] ++ points ∧
      ∀ name ∈ points, name = "." := by
  obtain ⟨idle, hpieces, hpoints⟩ := pieces_of_split hsplit
  refine ⟨_, ?_, hpoints⟩
  rw [names, hpieces]
  simp [split_last_ne_empty hsplit]

theorem names_of_split_none {path : String} (hsplit : split path = none) :
    ∀ name ∈ names path, name = "." := by
  unfold split at hsplit
  cases hpieces : pieces path with
  | nil => exact absurd hpieces (pieces_ne_nil path)
  | cons first rest =>
      obtain ⟨idle, hrest, hpoints⟩ := exists_idle rest
      simp only [hpieces] at hsplit
      cases hdrop : rest.reverse.dropWhile isIdle with
      | cons found earlier => simp [hdrop] at hsplit
      | nil =>
          simp only [hdrop, ite_eq_left_iff, reduceCtorEq, imp_false, Decidable.not_not] at hsplit
          rw [hdrop, List.reverse_nil, List.nil_append] at hrest
          rw [names, hpieces, hrest]
          simpa [hsplit] using hpoints

theorem pieces_eq_of_split {path last : String} {before : List String}
    (hsplit : split path = some (before, last)) :
    before.reverse ++ [last] <+: pieces path := by
  obtain ⟨idle, hpieces, -⟩ := pieces_of_split hsplit
  exact hpieces ▸ List.prefix_append _ _

theorem names_parent_leading {path parent last : String} {before : List String}
    (hsplit : split path = some (before, last)) (hparent : parent? path = some parent) :
    names parent <+: before.reverse.filter fun piece => !piece.isEmpty := by
  unfold parent? at hparent
  simp only [hsplit, Option.bind_eq_bind, Option.bind_some] at hparent
  have hslash : ∀ piece ∈ before.reverse, '/' ∉ piece.toList := fun piece hpiece =>
    slash_not_mem ((pieces_eq_of_split hsplit).subset (List.mem_append_left _ hpiece))
  cases hbefore : before.reverse with
  | nil =>
      simp only [hbefore, Option.some.injEq] at hparent
      subst hparent
      decide
  | cons first rest =>
      simp only [hbefore, Option.some.injEq] at hparent
      have hkept : first :: (rest.reverse.dropWhile isIdle).reverse <+: first :: rest := by
        have hsuffix := List.reverse_prefix.mpr (List.dropWhile_suffix isIdle (l := rest.reverse))
        simpa using hsuffix
      split at hparent
      · have hroot : names parent = [] := by
          subst hparent
          decide
        simp [hroot]
      · have hpieces : pieces parent = first :: (rest.reverse.dropWhile isIdle).reverse := by
          rw [← hparent]
          refine pieces_intercalate (by simp) ?_
          intro piece hpiece
          exact hslash piece (hbefore ▸ hkept.subset hpiece)
        rw [names, hpieces]
        exact hkept.filter _

theorem split_of_parent? {path parent : String} (hparent : parent? path = some parent) :
    ∃ before last, split path = some (before, last) := by
  cases hsplit : split path with
  | none => simp [parent?, hsplit] at hparent
  | some found => exact ⟨found.1, found.2, rfl⟩

theorem names_parent? {path parent : String} (hparent : parent? path = some parent) :
    names parent <+: names path := by
  obtain ⟨before, last, hsplit⟩ := split_of_parent? hparent
  have hbefore : before.reverse <+: pieces path :=
    (List.prefix_append _ _).trans (pieces_eq_of_split hsplit)
  exact (names_parent_leading hsplit hparent).trans (hbefore.filter _)

def outerNames (path : String) : List String :=
  match parent? path with
  | some parent => names parent
  | none => []

theorem outerNames_join {directory name : String} (hplain : IsPlain name) :
    outerNames (join directory name) <+: names directory := by
  unfold outerNames
  split
  next parent hparent =>
    have hfront := names_parent_leading (split_join directory hplain) hparent
    rwa [List.reverse_reverse, filter_around] at hfront
  next => exact List.nil_prefix

theorem splitName_append {stem extension : String} (hne : stem ≠ "")
    (hextension : '.' ∉ extension.toList) :
    splitName (stem ++ "." ++ extension) = (stem, some extension) := by
  have hcut : cut '.' (stem ++ "." ++ extension) = cut '.' stem ++ [extension] := by
    have happend := cut_append '.' stem extension
    rwa [cut_eq_singleton hextension] at happend
  have hstem : String.intercalate "." (cut '.' stem) = stem := intercalate_cut '.' stem
  unfold splitName
  rw [hcut, List.reverse_concat]
  cases hreverse : (cut '.' stem).reverse with
  | nil => simp [cut] at hreverse
  | cons last before =>
      have hwhole : (last :: before).reverse = cut '.' stem := by
        rw [← hreverse, List.reverse_reverse]
      dsimp only
      rw [hwhole, hstem]
      simp [hne]

theorem splitName_source {stem : String} (hne : stem ≠ "") :
    splitName (stem ++ ".rs") = (stem, some "rs") := by
  have hends : stem ++ ".rs" = stem ++ "." ++ "rs" := by
    rw [String.append_assoc]
    rfl
  rw [hends]
  exact splitName_append hne (by decide)

structure IsStem (stem : String) : Prop where
  slash_not_mem : '/' ∉ stem.toList
  point_not_mem : '.' ∉ stem.toList
  ne_empty : stem ≠ ""

theorem IsStem.isPlain_append {stem ending : String} (hstem : IsStem stem)
    (hslash : '/' ∉ ending.toList) (hlong : 2 ≤ ending.length) : IsPlain (stem ++ ending) := by
  have hletters : 0 < stem.toList.length := by
    rw [List.length_pos_iff]
    simpa using hstem.ne_empty
  have hlength : 3 ≤ (stem ++ ending).toList.length := by
    rw [String.toList_append, List.length_append, String.length_toList]
    rw [String.length_toList] at hletters ⊢
    omega
  refine ⟨by simp [hstem.slash_not_mem, hslash], ?_, ?_⟩
  · rw [isIdle, Bool.or_eq_false_iff]
    constructor
    · rw [← Bool.not_eq_true, String.isEmpty_iff]
      intro hempty
      simp [hempty] at hlength
    · rw [beq_eq_false_iff_ne]
      intro hpoint
      simp [hpoint] at hlength
  · intro hpoints
    simp [hpoints] at hlength

theorem temporaryPath_join (directory : String) {stem : String} (hstem : IsStem stem) :
    temporaryPath (join directory (stem ++ ".rs")) = join directory (stem ++ ".rs.tmp") := by
  have hplain : IsPlain (stem ++ ".rs") :=
    hstem.isPlain_append (by decide) (by decide)
  have hsplitName := splitName_source hstem.ne_empty
  have hname : fileName? (join directory (stem ++ ".rs")) = some (stem ++ ".rs") := by
    simp [fileName?, split_join directory hplain, hplain.not_parent, hplain.ne_point]
  have hpoint : stem ≠ "." := by
    rintro rfl
    exact absurd hstem.point_not_mem (by decide)
  have htext : stem ++ "." ++ "rs.tmp" = stem ++ ".rs.tmp" := by
    rw [String.append_assoc]
    rfl
  have hslash : '/' ∉ (stem ++ ".rs.tmp").toList := by
    simp [hstem.slash_not_mem]
  simp only [temporaryPath, withExtension, split_join directory hplain, hname, hsplitName,
    List.reverse_reverse, htext]
  rw [← intercalate_around directory hslash]
  simp [hpoint]

theorem splitName_stem (name : String) :
    (splitName name).1 = name ∨
      ∃ extension, name = (splitName name).1 ++ "." ++ extension ∧ '.' ∉ extension.toList := by
  have hcut := intercalate_cut '.' name
  unfold splitName
  cases hreverse : (cut '.' name).reverse with
  | nil => exact .inl rfl
  | cons last before =>
      cases before with
      | nil => exact .inl rfl
      | cons second earlier =>
          dsimp only
          split
          · exact .inl rfl
          · have hwhole : cut '.' name = (second :: earlier).reverse ++ [last] := by
              rw [← List.reverse_cons, ← hreverse, List.reverse_reverse]
            have hlast : last ∈ cut '.' name := by simp [hwhole]
            refine .inr ⟨last, ?_, mark_not_mem hlast⟩
            rw [hwhole, String.intercalate_append_of_ne_nil (by simp) (by simp)] at hcut
            simpa using hcut.symm

def temporaryName (name : String) : String :=
  (splitName name).1 ++ ".rs.tmp"

theorem slash_not_mem_temporaryName {name : String} (hslash : '/' ∉ name.toList) :
    '/' ∉ (temporaryName name).toList := by
  have hstem : '/' ∉ (splitName name).1.toList := by
    rcases splitName_stem name with hstem | ⟨extension, hname, -⟩
    · rwa [hstem]
    · intro hmem
      apply hslash
      rw [hname]
      simp [hmem]
  simp [temporaryName, hstem]

theorem isIdle_temporaryName (name : String) : isIdle (temporaryName name) = false := by
  have hlength : 7 ≤ (temporaryName name).length := by
    rw [temporaryName, String.length_append]
    exact Nat.le_add_left _ _
  rw [isIdle, Bool.or_eq_false_iff, ← Bool.not_eq_true, String.isEmpty_iff, beq_eq_false_iff_ne]
  constructor
  · intro hempty
    simp [hempty] at hlength
  · intro hpoint
    exact absurd (hpoint ▸ hlength) (by decide)

theorem ne_temporaryName (name : String) : name ≠ temporaryName name := by
  intro heq
  rcases splitName_stem name with hstem | ⟨extension, hname, hpoint⟩
  · have hlength := congrArg String.length heq
    rw [temporaryName, hstem, String.length_append] at hlength
    exact absurd hlength (by simp)
  · have hends : (splitName name).1 ++ ("." ++ extension) = (splitName name).1 ++ ".rs.tmp" := by
      rw [← String.append_assoc, ← hname]
      exact heq
    have hsame := (String.append_right_inj _).mp hends
    have hextension : extension.toList = "rs.tmp".toList := by
      have hletters := congrArg String.toList hsame
      rw [String.toList_append] at hletters
      exact (List.cons.inj hletters).2
    exact absurd (hextension ▸ hpoint) (by decide)

/-- The temporary file stands beside the file, under its own name, unless a point is all that
the extension leaves of the file's name. -/
theorem pieces_temporaryPath {path last : String} {before : List String}
    (hsplit : split path = some (before, last)) (hname : fileName? path = some last) :
    pieces (temporaryPath path) = before.reverse ++ [temporaryName last] ∨
      pieces (temporaryPath path) = before.reverse ++ [".."] := by
  have hslash : ∀ piece ∈ before.reverse ++ [last], '/' ∉ piece.toList := fun piece hpiece =>
    slash_not_mem ((pieces_eq_of_split hsplit).subset hpiece)
  have hbeside : ∀ name, '/' ∉ name.toList →
      pieces (String.intercalate "/" (before.reverse ++ [name])) = before.reverse ++ [name] := by
    intro name hfree
    refine pieces_intercalate (by simp) fun piece hpiece => ?_
    rcases List.mem_append.mp hpiece with hpiece | hpiece
    · exact hslash piece (List.mem_append_left _ hpiece)
    · rwa [List.mem_singleton.mp hpiece]
  simp only [temporaryPath, withExtension, hsplit, hname]
  split
  · exact .inr (hbeside _ (by decide))
  · have htext : (splitName last).1 ++ "." ++ "rs.tmp" = temporaryName last := by
      rw [String.append_assoc, temporaryName]
      rfl
    rw [htext]
    exact .inl (hbeside _ (slash_not_mem_temporaryName (hslash last (by simp))))

end ProviderForge.Path

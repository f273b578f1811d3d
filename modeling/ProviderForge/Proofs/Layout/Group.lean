import Mathlib.Logic.Function.Iterate
import ProviderForge.Proofs.Layout.Lines

namespace ProviderForge.Layout

/-- The groups that are open behind a draft, the innermost one first, each as the draft that ends
in its start. -/
def openGroups : Draft → List Draft
  | [] => []
  | .start breaking offset :: draft => (.start breaking offset :: draft) :: openGroups draft
  | .finish :: draft => (openGroups draft).tail
  | _ :: draft => openGroups draft

theorem openGroups_words (words : List String) (draft : Draft) :
    openGroups ((words.map .text).reverse ++ draft) = openGroups draft := by
  induction words generalizing draft with
  | nil => rfl
  | cons text words ih =>
      rw [List.map_cons, List.reverse_cons, List.append_assoc, List.singleton_append, ih]
      rfl

/-- What `measure` has counted of the pieces behind a place. -/
structure Count where
  total : Nat := 0
  marks : List Nat := []

namespace Count

def next (count : Count) (piece : Piece) : Count :=
  let total := count.total + piece.width
  match piece with
  | .finish => ⟨total, count.marks.headD 0 :: count.marks⟩
  | .start _ _ => ⟨total, count.marks.tail⟩
  | .possible _ => ⟨total, total :: count.marks.tail⟩
  | _ => ⟨total, count.marks⟩

def size (count : Count) : Piece → Nat
  | .start _ _ => count.total - count.marks.tail.headD 0
  | .possible spot => count.total + spot.blank - count.marks.headD 0
  | _ => 0

/-- Each line could end within what is counted. -/
def IsBounded (count : Count) : Prop :=
  ∀ mark ∈ count.marks, mark ≤ count.total

variable {count : Count}

theorem total_le_next (count : Count) (piece : Piece) : count.total ≤ (count.next piece).total := by
  cases piece <;> simp [next]

theorem IsBounded.headD_le (hcount : count.IsBounded) {marks : List Nat}
    (hmarks : marks ⊆ count.marks) : marks.headD 0 ≤ count.total := by
  cases marks with
  | nil => exact Nat.zero_le _
  | cons mark marks => exact hcount mark (hmarks List.mem_cons_self)

theorem isBounded_empty : ({} : Count).IsBounded :=
  fun _ hmem => absurd hmem List.not_mem_nil

theorem IsBounded.next (hcount : count.IsBounded) (piece : Piece) :
    (count.next piece).IsBounded := by
  have hle := total_le_next count piece
  have hmarks : ∀ mark ∈ (count.next piece).marks,
      mark ∈ count.marks ∨ mark = count.marks.headD 0 ∨ mark = (count.next piece).total := by
    intro mark hmark
    cases piece with
    | text _ | filler => exact .inl hmark
    | start _ _ => exact .inl (List.mem_of_mem_tail hmark)
    | finish => exact (List.mem_cons.mp hmark).elim (.inr ∘ .inl) .inl
    | possible _ =>
        exact (List.mem_cons.mp hmark).elim (.inr ∘ .inr) (.inl ∘ List.mem_of_mem_tail)
  intro mark hmark
  rcases hmarks mark hmark with hmem | rfl | rfl
  · exact Nat.le_trans (hcount mark hmem) hle
  · exact Nat.le_trans (hcount.headD_le fun _ => id) hle
  · exact Nat.le_refl _

theorem IsBounded.foldl (hcount : count.IsBounded) (later : Draft) :
    (later.foldl Count.next count).IsBounded := by
  induction later generalizing count with
  | nil => exact hcount
  | cons piece later ih => exact ih (hcount.next piece)

end Count

/-- The pieces of a draft with their sizes, where this is counted of what stands behind it. -/
def measured (count : Count) (draft : Draft) : List (Piece × Nat) :=
  measure count.total count.marks [] draft

theorem measure_append (total : Nat) (marks : List Nat) (pieces later : List (Piece × Nat))
    (draft : Draft) :
    measure total marks (pieces ++ later) draft = measure total marks pieces draft ++ later := by
  induction draft generalizing total marks pieces with
  | nil => rfl
  | cons piece draft ih => cases piece <;> simp [measure, ← ih]

theorem measured_cons (count : Count) (piece : Piece) (draft : Draft) :
    measured count (piece :: draft) =
      measured (count.next piece) draft ++ [(piece, count.size piece)] := by
  have happend (total : Nat) (marks : List Nat) (size : Nat) :
      measure total marks [(piece, size)] draft = measure total marks [] draft ++ [(piece, size)] :=
    measure_append total marks [] _ draft
  cases piece <;> exact happend _ _ _

theorem measured_append (count : Count) (later draft : Draft) :
    measured count (later ++ draft) =
      measured (later.foldl Count.next count) draft ++ measured count later := by
  induction later generalizing count with
  | nil => simp [measured, measure]
  | cons piece later ih =>
      rw [List.cons_append, measured_cons, ih, measured_cons, List.foldl_cons, List.append_assoc]

theorem map_fst_measured (count : Count) (draft : Draft) :
    (measured count draft).map Prod.fst = draft.reverse := by
  induction draft generalizing count with
  | nil => rfl
  | cons piece draft ih => simp [measured_cons, ih]

/-- The page with the draft on it. -/
def pageOf (count : Count) (draft : Draft) : Page :=
  (measured count draft).foldl Page.add {}

@[simp]
theorem pageOf_cons (count : Count) (piece : Piece) (draft : Draft) :
    pageOf count (piece :: draft) =
      (pageOf (count.next piece) draft).add (piece, count.size piece) := by
  simp [pageOf, measured_cons]

/-- Words that stand in a draft are written in its text, and the rest of it behind them. -/
theorem toList_text_of_words {drawing : Drawing} {words : List String} {later earlier : Draft}
    (hdraft : drawing [] = later ++ ((words.map .text).reverse ++ earlier)) :
    ∃ before, drawing.text.toList = before ++ words.flatMap String.toList ++
      (pageOf (later.foldl Count.next {}) ((words.map .text).reverse ++ earlier)).addedAll
        (measured {} later) := by
  have hmeasure : measure 0 [] [] (drawing []) = measured {} (drawing []) := rfl
  let count := later.foldl Count.next {}
  let front := measured ((words.map .text).reverse.foldl Count.next count) earlier
  have hwords : (measured count (words.map .text).reverse).map Prod.fst = words.map .text :=
    (map_fst_measured count _).trans (List.reverse_reverse _)
  obtain ⟨blanks, hadded⟩ := Page.addedAll_texts (front.foldl Page.add {}) hwords
  refine ⟨Page.addedAll {} front ++ blanks, ?_⟩
  rw [Drawing.toList_text, hmeasure, hdraft, measured_append, Page.addedAll_append, ← pageOf,
    measured_append, Page.addedAll_append, hadded]
  simp only [List.append_assoc, front, count]

/-- The indentation and how the open groups are written. -/
abbrev Levels := Int × List Frame

def Page.levels (page : Page) : Levels :=
  (page.indentation, page.frames)

def Levels.close : Levels → Levels
  | (_, .broken indentation _ :: frames) => (indentation, frames)
  | (indentation, frames) => (indentation, frames.tail)

section

variable (page : Page) (size : Nat)

theorem Page.levels_text (value : String) :
    (page.add (.text value, size)).levels = page.levels :=
  rfl

theorem Page.levels_filler : (page.add (.filler, size)).levels = page.levels :=
  rfl

theorem Page.levels_endLine (spot : Break) : (page.endLine spot).levels = page.levels := by
  unfold endLine
  cases spot.atLineEnd <;> (dsimp only; split <;> rfl)

theorem Page.levels_possible (spot : Break) :
    (page.add (.possible spot, size)).levels = page.levels := by
  simp only [add]
  split
  · unfold writeUnbroken
    cases spot.unbroken <;> rfl
  · exact page.levels_endLine spot

theorem Page.levels_start (breaking : Breaking) (offset : Int) :
    (page.add (.start breaking offset, size)).levels.close = page.levels := by
  simp only [add]
  split <;> rfl

theorem Page.levels_finish :
    (page.add (.finish, size)).levels = page.levels.close := by
  unfold add levels Levels.close
  dsimp only
  split <;> simp_all

end

/-- Closing the inner groups leads back to the page as it was when the group was opened. -/
theorem exists_openGroup {draft group : Draft} {inner outer : List Draft}
    (hopen : openGroups draft = inner ++ group :: outer) (count : Count) :
    ∃ before : Count, count.total ≤ before.total ∧
      before.marks.tail = count.marks.drop (inner.length + 1) ∧
      Levels.close^[inner.length] (pageOf count draft).levels = (pageOf before group).levels := by
  induction draft generalizing count inner with
  | nil => simp [openGroups] at hopen
  | cons piece draft ih =>
      have hle := count.total_le_next piece
      cases piece with
      | text value =>
          obtain ⟨before, htotal, hmarks, hlevels⟩ := ih hopen (count.next (.text value))
          refine ⟨before, Nat.le_trans hle htotal, hmarks, ?_⟩
          rw [pageOf_cons, Page.levels_text, hlevels]
      | filler =>
          obtain ⟨before, htotal, hmarks, hlevels⟩ := ih hopen (count.next .filler)
          refine ⟨before, Nat.le_trans hle htotal, hmarks, ?_⟩
          rw [pageOf_cons, Page.levels_filler, hlevels]
      | possible spot =>
          obtain ⟨before, htotal, hmarks, hlevels⟩ := ih hopen (count.next (.possible spot))
          refine ⟨before, Nat.le_trans hle htotal, hmarks.trans (by simp [Count.next]), ?_⟩
          rw [pageOf_cons, Page.levels_possible, hlevels]
      | start breaking offset =>
          cases inner with
          | nil =>
              obtain ⟨rfl, -⟩ := List.cons_eq_cons.mp hopen
              exact ⟨count, Nat.le_refl _, by simp, rfl⟩
          | cons first inner =>
              obtain ⟨-, hopen⟩ := List.cons_eq_cons.mp hopen
              obtain ⟨before, htotal, hmarks, hlevels⟩ :=
                ih hopen (count.next (.start breaking offset))
              refine ⟨before, Nat.le_trans hle htotal, hmarks.trans (by simp [Count.next]), ?_⟩
              rw [pageOf_cons, List.length_cons, Function.iterate_succ_apply, Page.levels_start,
                hlevels]
      | finish =>
          -- what is finished here is one more inner group before
          obtain ⟨first, hopen⟩ : ∃ first, openGroups draft = first :: inner ++ group :: outer := by
            cases hgroups : openGroups draft with
            | nil => simp [openGroups, hgroups] at hopen
            | cons first groups => exact ⟨first, by simpa [openGroups, hgroups] using hopen⟩
          obtain ⟨before, htotal, hmarks, hlevels⟩ := ih hopen (count.next .finish)
          refine ⟨before, Nat.le_trans hle htotal, hmarks.trans (by simp [Count.next]), ?_⟩
          rw [pageOf_cons, Page.levels_finish, ← Function.iterate_succ_apply]
          exact hlevels

/-- The group of a whole file. -/
def fileGroup : Draft :=
  [.start .consistent 0]

/-- The group of an item in the file, behind an attribute of the item. -/
def itemGroup (before : Draft) : Draft :=
  .start .consistent indent :: .possible { blank := 1 } :: before

theorem levels_fileGroup {count : Count}
    (hwide : count.marks.tail.headD 0 + infinity ≤ count.total) :
    (pageOf count fileGroup).levels = (0, [.broken 0 .consistent]) := by
  have hroom : ((count.total - count.marks.tail.headD 0 : Nat) : Int) > lineWidth := by
    simp only [infinity, lineWidth] at hwide ⊢
    omega
  have hpage : pageOf count fileGroup = { frames := [.broken 0 .consistent] } := by
    simp only [fileGroup, pageOf_cons, Count.size, Page.add]
    exact if_pos hroom
  rw [hpage]
  rfl

/-- A line ends behind each attribute of an item, so the item has a whole line. -/
theorem room_of_levels {page : Page} (hlevels : page.levels = (0, [.broken 0 .consistent]))
    (size : Nat) : (page.add (.possible { blank := 1 }, size)).room = lineWidth := by
  obtain ⟨hindentation, hframes⟩ := Prod.mk.inj hlevels
  have hbroken : page.isUnbroken { blank := 1 } size = false := by
    simp [Page.isUnbroken, hframes]
  have hroom : max (lineWidth - (page.indentation + 0)) leastRoom = lineWidth := by
    rw [hindentation]
    decide
  simp only [Page.add, hbroken, Bool.false_eq_true, if_false]
  exact hroom

theorem frames_start {page : Page} {breaking : Breaking} {offset : Int} {size : Nat}
    (hsize : (size : Int) > page.room) :
    (page.add (.start breaking offset, size)).frames =
      .broken page.indentation breaking :: page.frames :=
  congrArg Page.frames (if_pos hsize)

/-- The group of an item does not fit on a line if a break as wide as this stands in it. -/
theorem frames_itemGroup {count : Count} (hcount : count.IsBounded) {draft before : Draft}
    (hopen : openGroups draft = [itemGroup before, fileGroup])
    (hbefore : openGroups before = [fileGroup]) :
    ∃ indentation frames,
      (pageOf (count.next (.possible { blank := infinity })) draft).frames =
        .broken indentation .consistent :: frames := by
  have hitem : openGroups draft = [] ++ itemGroup before :: [fileGroup] := hopen
  obtain ⟨atItem, htotal, hmarks, hlevels⟩ :=
    exists_openGroup hitem (count.next (.possible { blank := infinity }))
  have hmarks : atItem.marks.tail = count.marks.tail := hmarks
  have hwide : count.total + infinity ≤ atItem.total := htotal
  let behind := (atItem.next (.start .consistent indent)).next (.possible { blank := 1 })
  have hfile : openGroups before = [] ++ fileGroup :: [] := hbefore
  obtain ⟨atFile, hfileTotal, hfileMarks, hfileLevels⟩ := exists_openGroup hfile behind
  have hfileMarks : atFile.marks.tail = count.marks.tail.tail := by
    rw [hfileMarks, ← hmarks]
    rfl
  have hle : atItem.total ≤ atFile.total :=
    Nat.le_trans (Nat.le_add_right _ 1) hfileTotal
  have hbroken : (pageOf behind before).levels = (0, [.broken 0 .consistent]) := by
    refine hfileLevels.trans (levels_fileGroup ?_)
    have hbound := hcount.headD_le
      fun _ hmem => List.mem_of_mem_tail (List.mem_of_mem_tail hmem)
    rw [hfileMarks]
    omega
  have hbound := hcount.headD_le fun _ hmem => List.mem_of_mem_tail hmem
  have hsize : ((atItem.size (.start .consistent indent) : Nat) : Int) > lineWidth := by
    simp only [Count.size, hmarks, lineWidth, infinity] at hwide ⊢
    omega
  have hroom :
      (pageOf (atItem.next (.start .consistent indent)) (.possible { blank := 1 } :: before)).room =
        lineWidth := by
    rw [pageOf_cons]
    exact room_of_levels hbroken _
  have hframes : (pageOf (count.next (.possible { blank := infinity })) draft).frames =
      (pageOf atItem (itemGroup before)).frames := congrArg Prod.snd hlevels
  rw [hframes, itemGroup, pageOf_cons]
  exact ⟨_, _, frames_start (hroom.symm ▸ hsize)⟩

/-- A line ends where such a break stands in an item, however little the item holds. -/
theorem head?_addedAll_hardBreak {draft before : Draft} (hbefore : openGroups before = [fileGroup])
    (hopen : openGroups draft = [itemGroup before, fileGroup]) (later : Draft) :
    ((pageOf ((later ++ [Piece.possible { blank := infinity }]).foldl Count.next {}) draft).addedAll
      (measured {} (later ++ [.possible { blank := infinity }]))).head? = some '\n' := by
  have hbounded : (later.foldl Count.next {}).IsBounded := Count.isBounded_empty.foldl later
  obtain ⟨indentation, frames, hframes⟩ := frames_itemGroup hbounded hopen hbefore
  rw [measured_append, measured_cons, List.foldl_append]
  simp [measured, measure, Page.addedAll, Page.added, Page.isUnbroken, hframes, Page.addedAtEnd]

end ProviderForge.Layout

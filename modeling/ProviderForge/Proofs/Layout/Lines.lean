import ProviderForge.Layout.Lines

namespace ProviderForge.Layout

namespace Page

theorem toList_spaces (count : Nat) : (spaces count).toList = List.replicate count ' ' := by
  have hrepeat : ∀ count, (Nat.repeat (fun text : String => text.push ' ') count "").toList =
      List.replicate count ' ' := by
    intro count
    induction count with
    | zero => rfl
    | succ count ih => rw [Nat.repeat, String.toList_push, ih, List.replicate_succ']
  exact hrepeat count

def addedAtEnd (page : Page) (spot : Break) : List Char :=
  let before := match spot.atLineEnd with
    | some character => List.replicate page.pending ' ' ++ [character]
    | none => []
  let behind :=
    if spot.atLineStart.isEmpty then []
    else List.replicate (page.indentation + spot.offset).toNat ' ' ++ spot.atLineStart.toList
  before ++ '\n' :: behind

def added (page : Page) : Piece × Nat → List Char
  | (.text value, _) => List.replicate page.pending ' ' ++ value.toList
  | (.possible spot, size) =>
      if page.isUnbroken spot size then spot.unbroken.toList else page.addedAtEnd spot
  | _ => []

theorem toList_write (page : Page) (text : String) :
    (page.write text).text.toList =
      page.text.toList ++ (List.replicate page.pending ' ' ++ text.toList) := by
  simp [write, toList_spaces]

theorem toList_endLine (page : Page) (spot : Break) :
    (page.endLine spot).text.toList = page.text.toList ++ page.addedAtEnd spot := by
  unfold endLine addedAtEnd
  cases spot.atLineEnd with
  | none =>
      by_cases hstart : spot.atLineStart.isEmpty
      · simp [hstart]
      · simp [hstart, toList_write]
  | some character =>
      by_cases hstart : spot.atLineStart.isEmpty
      · simp [hstart, toList_write]
      · simp [hstart, toList_write]
        rfl

theorem toList_add (page : Page) (piece : Piece × Nat) :
    (page.add piece).text.toList = page.text.toList ++ page.added piece := by
  obtain ⟨piece, size⟩ := piece
  cases piece with
  | text value => exact page.toList_write value
  | filler => simp [add, added]
  | possible spot =>
      by_cases hunbroken : page.isUnbroken spot size
      · cases hmark : spot.unbroken <;> simp [add, added, hunbroken, writeUnbroken, hmark]
      · simp [add, added, hunbroken, toList_endLine]
  | start breaking offset =>
      simp only [add, added, List.append_nil]
      split <;> rfl
  | finish =>
      simp only [add, added, List.append_nil]
      split <;> rfl

def addedAll (page : Page) : List (Piece × Nat) → List Char
  | [] => []
  | piece :: pieces => page.added piece ++ (page.add piece).addedAll pieces

theorem toList_foldl_add (page : Page) (pieces : List (Piece × Nat)) :
    (pieces.foldl add page).text.toList = page.text.toList ++ page.addedAll pieces := by
  induction pieces generalizing page with
  | nil => simp [addedAll]
  | cons piece pieces ih => rw [List.foldl_cons, ih, toList_add, List.append_assoc, addedAll]

theorem addedAll_append (page : Page) (pieces later : List (Piece × Nat)) :
    page.addedAll (pieces ++ later) =
      page.addedAll pieces ++ (pieces.foldl add page).addedAll later := by
  induction pieces generalizing page with
  | nil => rfl
  | cons piece pieces ih => simp [addedAll, ih]

theorem addedAll_texts (page : Page) {words : List String} {pieces : List (Piece × Nat)}
    (hpieces : pieces.map Prod.fst = words.map .text) :
    ∃ blanks, page.addedAll pieces = blanks ++ words.flatMap String.toList := by
  have hunspaced : ∀ (page : Page) (words : List String) (pieces : List (Piece × Nat)),
      page.pending = 0 → pieces.map Prod.fst = words.map .text →
      page.addedAll pieces = words.flatMap String.toList := by
    intro page words pieces hpending hpieces
    induction words generalizing page pieces with
    | nil =>
        obtain rfl := List.map_eq_nil_iff.mp hpieces
        rfl
    | cons text words ih =>
        obtain ⟨⟨_, size⟩, later, rfl, rfl, hlater⟩ := List.map_eq_cons_iff.mp hpieces
        simp [addedAll, added, add, hpending, ih (page.write text) later rfl hlater]
  cases words with
  | nil => exact ⟨[], by simp_all [addedAll]⟩
  | cons text words =>
      obtain ⟨⟨_, size⟩, later, rfl, rfl, hlater⟩ := List.map_eq_cons_iff.mp hpieces
      refine ⟨List.replicate page.pending ' ', ?_⟩
      simp [addedAll, added, add, hunspaced (page.write text) words later rfl hlater]

end Page

/-- The text of a drawing, character by character. -/
theorem Drawing.toList_text (drawing : Drawing) :
    drawing.text.toList = Page.addedAll {} (measure 0 [] [] (drawing [])) := by
  rw [text, Page.toList_foldl_add]
  rfl

end ProviderForge.Layout

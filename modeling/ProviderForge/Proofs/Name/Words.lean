import ProviderForge.Proofs.Name.Identifier

namespace ProviderForge

namespace Name

open Text

theorem mem_of_mem_splitCase {mode : Mode} {word letters piece : List Char}
    (hpiece : piece ∈ splitCase mode word letters) {character : Char} (hmem : character ∈ piece) :
    character ∈ word ∨ character ∈ letters := by
  fun_induction splitCase mode word letters with
  | case1 word hempty => simp at hpiece
  | case2 mode word hempty =>
      obtain rfl := List.mem_singleton.mp hpiece
      simpa using hmem
  | case3 mode word last =>
      obtain rfl := List.mem_singleton.mp hpiece
      simpa [or_comm] using hmem
  | case4 mode word first next rest hbreak ih =>
      rcases List.mem_cons.mp hpiece with rfl | hpiece
      · have hin : character = first ∨ character ∈ word := by simpa [or_comm] using hmem
        rcases hin with rfl | hin
        · simp
        · exact .inl hin
      · rcases ih hpiece with hin | hin
        · simp at hin
        · exact .inr (List.mem_cons_of_mem _ hin)
  | case5 mode word first next rest _ hbreak ih =>
      rcases List.mem_cons.mp hpiece with rfl | hpiece
      · exact .inl (by simpa using hmem)
      · rcases ih hpiece with hin | hin
        · obtain rfl := List.mem_singleton.mp hin
          simp
        · exact .inr (List.mem_cons_of_mem _ hin)
  | case6 mode word first next rest _ _ ih =>
      rcases ih hpiece with hin | hin
      · rcases List.mem_cons.mp hin with rfl | hin
        · simp
        · exact .inl hin
      · exact .inr (List.mem_cons_of_mem _ hin)

theorem mem_of_mem_alphanumericRuns {run letters piece : List Char}
    (hpiece : piece ∈ alphanumericRuns run letters) {character : Char}
    (hmem : character ∈ piece) : character ∈ run ∨ character ∈ letters := by
  induction letters generalizing run with
  | nil =>
      obtain rfl := List.mem_singleton.mp hpiece
      simpa using hmem
  | cons first rest ih =>
      unfold alphanumericRuns at hpiece
      split at hpiece
      · rcases ih hpiece with hin | hin
        · rcases List.mem_cons.mp hin with rfl | hin
          · simp
          · exact .inl hin
        · exact .inr (List.mem_cons_of_mem _ hin)
      · rcases List.mem_cons.mp hpiece with rfl | hpiece
        · exact .inl (by simpa using hmem)
        · rcases ih hpiece with hin | hin
          · simp at hin
          · exact .inr (List.mem_cons_of_mem _ hin)

theorem mem_of_mem_words {letters word : List Char} (hword : word ∈ words letters)
    {character : Char} (hmem : character ∈ word) : character ∈ letters := by
  obtain ⟨run, hrun, hsplit⟩ := List.mem_flatMap.mp hword
  rcases mem_of_mem_splitCase hsplit hmem with hin | hin
  · simp at hin
  · rcases mem_of_mem_alphanumericRuns hrun hin with hin | hin
    · simp at hin
    · exact hin

theorem toNat_of_canContinue {character : Char} (hcontinue : canContinue character = true) :
    character.toNat < 128 := by
  simp only [canContinue, isAsciiLetter, isAsciiDigit, Bool.or_eq_true, Bool.and_eq_true,
    decide_eq_true_eq, beq_iff_eq] at hcontinue
  have hle : ∀ bound : Char, character ≤ bound → character.toNat ≤ bound.toNat :=
    fun _ hbound => hbound
  rcases hcontinue with ((⟨-, hbound⟩ | ⟨-, hbound⟩) | ⟨-, hbound⟩) | rfl
  · exact Nat.lt_of_le_of_lt (hle _ hbound) (by decide)
  · exact Nat.lt_of_le_of_lt (hle _ hbound) (by decide)
  · exact Nat.lt_of_le_of_lt (hle _ hbound) (by decide)
  · decide

private theorem case_ascii : ∀ point < 128, canContinue (Char.ofNat point) = true →
    (toUpper (Char.ofNat point)).all canContinue = true ∧
      (toLower (Char.ofNat point)).all canContinue = true := by
  decide +kernel

theorem canContinue_toUpper {character : Char} (hcontinue : canContinue character = true) :
    ∀ image ∈ toUpper character, canContinue image = true := by
  have hcase := case_ascii character.toNat (toNat_of_canContinue hcontinue)
  rw [Char.ofNat_toNat] at hcase
  exact List.all_eq_true.mp (hcase hcontinue).1

theorem canContinue_toLower {character : Char} (hcontinue : canContinue character = true) :
    ∀ image ∈ toLower character, canContinue image = true := by
  have hcase := case_ascii character.toNat (toNat_of_canContinue hcontinue)
  rw [Char.ofNat_toNat] at hcase
  exact List.all_eq_true.mp (hcase hcontinue).2

theorem canContinue_lowercase {word : List Char}
    (hword : ∀ character ∈ word, canContinue character = true) :
    ∀ image ∈ lowercase word, canContinue image = true := by
  fun_induction lowercase word with
  | case1 => simp
  | case2 =>
      have hsigma := hword 'Σ' (by simp)
      exact absurd hsigma (by decide)
  | case3 first rest _ ih =>
      intro image hmem
      rcases List.mem_append.mp hmem with hmem | hmem
      · exact canContinue_toLower (hword first (by simp)) image hmem
      · exact ih (fun character hin => hword character (List.mem_cons_of_mem _ hin)) image hmem

theorem canContinue_upperCamel {name : String}
    (hname : ∀ character ∈ name.toList, canContinue character = true) :
    ∀ character ∈ (upperCamel name).toList, canContinue character = true := by
  intro character hmem
  rw [upperCamel, String.toList_ofList, List.mem_flatMap] at hmem
  obtain ⟨word, hword, hmem⟩ := hmem
  have hletters : ∀ letter ∈ word, canContinue letter = true :=
    fun letter hletter => hname letter (mem_of_mem_words hword hletter)
  cases word with
  | nil => simp [capitalize] at hmem
  | cons first rest =>
      rcases List.mem_append.mp hmem with hmem | hmem
      · exact canContinue_toUpper (hletters first (by simp)) character hmem
      · exact canContinue_lowercase
          (fun letter hletter => hletters letter (List.mem_cons_of_mem _ hletter)) character hmem

theorem flatten_splitCase (mode : Mode) (word letters : List Char) :
    (splitCase mode word letters).flatten = word.reverse ++ letters := by
  fun_induction splitCase mode word letters with
  | case1 _ word hempty => simp [List.isEmpty_iff.mp hempty]
  | case2 | case3 => simp
  | case4 _ _ _ _ _ _ ih | case5 _ _ _ _ _ _ _ ih | case6 _ _ _ _ _ _ _ ih => simp [ih]

theorem flatten_alphanumericRuns (run letters : List Char) :
    (alphanumericRuns run letters).flatten = run.reverse ++ letters.filter isAlphanumeric := by
  induction letters generalizing run with
  | nil => simp [alphanumericRuns]
  | cons first rest ih =>
      unfold alphanumericRuns
      split
      next hfirst => simp [ih, hfirst]
      next hfirst => simp [ih, hfirst]

/-- The words of a name hold its letters and digits, in order. -/
theorem flatten_words (letters : List Char) :
    (words letters).flatten = letters.filter isAlphanumeric := by
  have hsplit : ∀ runs : List (List Char),
      (runs.flatMap (splitCase .start [])).flatten = runs.flatten := by
    intro runs
    induction runs with
    | nil => rfl
    | cons run runs ih =>
        rw [List.flatMap_cons, List.flatten_append, flatten_splitCase, ih]
        rfl
  rw [words, hsplit, flatten_alphanumericRuns]
  rfl

theorem flatMap_capitalize_nil {pieces : List (List Char)} (hpieces : pieces.flatten = []) :
    pieces.flatMap capitalize = [] := by
  rw [List.flatten_eq_nil_iff] at hpieces
  rw [List.flatMap_eq_nil_iff]
  intro piece hmem
  rw [hpieces piece hmem]
  rfl

theorem flatMap_capitalize_cons {pieces : List (List Char)} {first : Char} {rest : List Char}
    (hpieces : pieces.flatten = first :: rest) :
    ∃ others, pieces.flatMap capitalize = toUpper first ++ others := by
  induction pieces with
  | nil => simp at hpieces
  | cons piece pieces ih =>
      cases piece with
      | nil => exact ih hpieces
      | cons character piece =>
          obtain ⟨rfl, -⟩ := List.cons.inj hpieces
          exact ⟨lowercase piece ++ pieces.flatMap capitalize, by simp [capitalize]⟩

/-- Underscores, if any, are followed by a digit. -/
def isNumbered (name : String) : Bool :=
  (name.toList.find? isAlphanumeric).any isAsciiDigit

private theorem start_ascii : ∀ point < 128, canContinue (Char.ofNat point) = true →
    isAlphanumeric (Char.ofNat point) = true →
      (toUpper (Char.ofNat point)).head?.map canStart =
        some (!isAsciiDigit (Char.ofNat point)) := by
  decide +kernel

theorem canStart_toUpper {character : Char} (hcontinue : canContinue character = true)
    (hletter : isAlphanumeric character = true) :
    ∃ upper others, toUpper character = upper :: others ∧
      canStart upper = !isAsciiDigit character := by
  have hstart := start_ascii character.toNat (toNat_of_canContinue hcontinue)
  rw [Char.ofNat_toNat] at hstart
  have hhead := hstart hcontinue hletter
  cases hupper : toUpper character with
  | nil => simp [hupper] at hhead
  | cons upper others => exact ⟨upper, others, rfl, by simpa [hupper] using hhead⟩

/-- The words of an identifier are empty, or begin with a character that tells whether the name
is numbered. -/
theorem upperCamel_start {name : String} (hword : IsWord name) :
    (upperCamel name).toList = [] ∧ isNumbered name = false ∨
      ∃ upper others, (upperCamel name).toList = upper :: others ∧
        canStart upper = !isNumbered name := by
  have hflatten := flatten_words name.toList
  have hfind := List.head?_filter (p := isAlphanumeric) (l := name.toList)
  rw [upperCamel, String.toList_ofList, isNumbered]
  cases hletters : name.toList.filter isAlphanumeric with
  | nil =>
      rw [hletters] at hflatten hfind
      exact .inl ⟨flatMap_capitalize_nil hflatten, by simp [← hfind]⟩
  | cons first rest =>
      rw [hletters] at hflatten hfind
      have hmem : first ∈ name.toList.filter isAlphanumeric := by simp [hletters]
      obtain ⟨hfirst, hletter⟩ := List.mem_filter.mp hmem
      obtain ⟨upper, more, hupper, hstart⟩ :=
        canStart_toUpper (hword.canContinue first hfirst) hletter
      obtain ⟨others, hcapitalized⟩ := flatMap_capitalize_cons hflatten
      refine .inr ⟨upper, more ++ others, by rw [hcapitalized, hupper]; rfl, ?_⟩
      simpa [← hfind] using hstart

theorem isWord_upperCamel_append {name ending : String} (hname : IsWord name)
    (hending : IsWord ending) (hnumbered : isNumbered name = false) :
    IsWord (upperCamel name ++ ending) := by
  rcases upperCamel_start hname with ⟨hempty, -⟩ | ⟨upper, others, hcamel, hstart⟩
  · obtain ⟨first, rest, hletters, hword⟩ := hending
    exact ⟨first, rest, by simp [hempty, hletters], hword⟩
  · have hcontinue := canContinue_upperCamel hname.canContinue
    rw [hcamel] at hcontinue
    have hword : IsWord (upperCamel name) :=
      ⟨upper, others, hcamel, by simp [hstart, hnumbered],
        List.all_eq_true.mpr fun character hmem =>
          hcontinue character (List.mem_cons_of_mem _ hmem)⟩
    exact hword.append hending.canContinue

theorem fault?_upperCamel_append {name : String} (hname : IsWord name)
    (hnumbered : isNumbered name = true) (ending : String) :
    fault? (upperCamel name ++ ending) = some .badStart := by
  rcases upperCamel_start hname with ⟨-, hother⟩ | ⟨upper, others, hcamel, hstart⟩
  · simp [hnumbered] at hother
  · rw [hnumbered] at hstart
    simp [fault?, hcamel, hstart]

theorem isWord_nestedType {parent member : String} (hparent : IsWord parent)
    (hmember : IsWord member) : IsWord (nestedType parent member) :=
  (hparent.append (canContinue_upperCamel hmember.canContinue)).append
    (List.all_eq_true.mp (by decide))

end Name

namespace Identifier

theorem type_nestedType {parent member : String} (hparent : Name.IsWord parent)
    (hmember : Name.IsWord member) :
    type (Name.nestedType parent member) = .ok ⟨Name.nestedType parent member⟩ := by
  refine type_of_ending (Name.isWord_nestedType hparent hmember) "Item" ?_ (by decide)
  rw [Name.nestedType, String.toList_append]
  exact List.suffix_append _ _

theorem type_model {typeName : String} (hword : Name.IsWord typeName) :
    type (typeName ++ "Model") = .ok ⟨typeName ++ "Model"⟩ := by
  refine type_of_ending (hword.append (List.all_eq_true.mp (by decide))) "Model" ?_ (by decide)
  simp

end Identifier

end ProviderForge

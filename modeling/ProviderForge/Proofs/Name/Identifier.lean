import ProviderForge.Name.Identifier
import ProviderForge.Proofs.Result

namespace ProviderForge

open Result

namespace Name

theorem validate_eq_ok {name : String} : validate name = .ok () ↔ fault? name = none := by
  unfold validate
  cases fault? name <;> simp

/-- An ASCII identifier, reserved or not. -/
def IsWord (name : String) : Prop :=
  ∃ first rest, name.toList = first :: rest ∧ canStart first = true ∧
    rest.all canContinue = true

theorem fault?_eq_none {name : String} :
    fault? name = none ↔ IsWord name ∧ name ∉ reserved := by
  unfold fault? IsWord
  cases hletters : name.toList with
  | nil => simp
  | cons first rest =>
      dsimp only
      constructor
      · intro hnone
        split at hnone
        · simp at hnone
        next hstart =>
          split at hnone
          · simp at hnone
          next hrest =>
            split at hnone
            · simp at hnone
            next hreserved =>
              exact ⟨⟨first, rest, rfl, by simpa using hstart, by simpa using hrest⟩,
                by simpa using hreserved⟩
      · rintro ⟨⟨head, tail, heq, hstart, hrest⟩, hreserved⟩
        obtain ⟨rfl, rfl⟩ := List.cons.inj heq
        have hcontains : reserved.contains name = false := by simpa using hreserved
        simp only [hstart, hrest, hcontains, Bool.not_true, Bool.false_eq_true, if_false]

theorem canContinue_of_canStart {character : Char} (hstart : canStart character = true) :
    canContinue character = true := by
  simp only [canStart, canContinue, Bool.or_eq_true] at hstart ⊢
  rcases hstart with hletter | hmark
  · exact .inl (.inl hletter)
  · exact .inr hmark

theorem IsWord.canContinue {name : String} (hword : IsWord name) :
    ∀ character ∈ name.toList, canContinue character = true := by
  obtain ⟨first, rest, hletters, hstart, hrest⟩ := hword
  intro character hmem
  rw [hletters] at hmem
  rcases List.mem_cons.mp hmem with rfl | hmem
  · exact canContinue_of_canStart hstart
  · exact List.all_eq_true.mp hrest character hmem

theorem IsWord.append {name ending : String} (hword : IsWord name)
    (hending : ∀ character ∈ ending.toList, Name.canContinue character = true) :
    IsWord (name ++ ending) := by
  obtain ⟨first, rest, hletters, hstart, hrest⟩ := hword
  refine ⟨first, rest ++ ending.toList, by simp [hletters], hstart, ?_⟩
  rw [List.all_append, hrest, Bool.true_and, List.all_eq_true]
  exact hending

def fieldText (name : String) : String :=
  if isKeyword name then "r#" ++ name else name

theorem fieldText_inj {name other : String} (hname : fault? name = none)
    (hother : fault? other = none) (htext : fieldText name = fieldText other) : name = other := by
  have hmark : ∀ name other, fault? other = none → "r#" ++ name ≠ other := by
    rintro name other hother rfl
    have hletters := (fault?_eq_none.mp hother).1.canContinue '#' (by simp)
    exact absurd hletters (by decide)
  unfold fieldText at htext
  split at htext <;> split at htext
  · exact String.append_right_inj _ |>.mp htext
  · exact absurd htext (hmark _ _ hother)
  · exact absurd htext.symm (hmark _ _ hname)
  · exact htext

end Name

namespace Identifier

theorem type_eq_ok {name : String} {identifier : Identifier} :
    type name = .ok identifier ↔
      Name.fault? name = none ∧ Name.isKeyword name = false ∧ identifier = ⟨name⟩ := by
  simp only [type, bind_eq_ok, exists_unit, Name.validate_eq_ok]
  constructor
  · rintro ⟨hfault, hidentifier⟩
    split at hidentifier
    · simp at hidentifier
    next hkeyword =>
      exact ⟨hfault, by simpa using hkeyword, (pure_eq_ok.mp hidentifier).symm⟩
  · rintro ⟨hfault, hkeyword, rfl⟩
    simp [hfault, hkeyword]

theorem field_eq_ok {name : String} {identifier : Identifier} :
    field name = .ok identifier ↔
      Name.fault? name = none ∧
        identifier = ⟨if Name.isKeyword name then "r#" ++ name else name⟩ := by
  simp only [field, bind_eq_ok, exists_unit, Name.validate_eq_ok]
  constructor
  · rintro ⟨hfault, hidentifier⟩
    refine ⟨hfault, ?_⟩
    split at hidentifier
    next hkeyword => simpa [hkeyword] using (pure_eq_ok.mp hidentifier).symm
    next hkeyword => simpa [hkeyword] using (pure_eq_ok.mp hidentifier).symm
  · rintro ⟨hfault, rfl⟩
    refine ⟨hfault, ?_⟩
    split <;> rfl

theorem field_inj {name other : String} {identifier : Identifier}
    (hfield : field name = .ok identifier)
    (hotherField : field other = .ok identifier) : name = other := by
  obtain ⟨hname, rfl⟩ := field_eq_ok.mp hfield
  obtain ⟨hother, htext⟩ := field_eq_ok.mp hotherField
  exact Name.fieldText_inj hname hother (Identifier.mk.inj htext)

theorem isWord_of_type {name : String} {identifier : Identifier}
    (htype : type name = .ok identifier) : Name.IsWord name :=
  (Name.fault?_eq_none.mp (type_eq_ok.mp htype).1).1

/-- An identifier with an ending that no keyword has names a type. -/
theorem type_of_ending {name : String} (hword : Name.IsWord name) (ending : String)
    (hending : ending.toList <:+ name.toList)
    (hkeywords : ∀ keyword ∈ Name.rawKeywords ++ Name.reserved,
      ¬ ending.toList <:+ keyword.toList) : type name = .ok ⟨name⟩ := by
  have hfree : name ∉ Name.rawKeywords ++ Name.reserved :=
    fun hmem => hkeywords name hmem hending
  rw [List.mem_append, not_or] at hfree
  refine type_eq_ok.mpr ⟨Name.fault?_eq_none.mpr ⟨hword, hfree.2⟩, ?_, rfl⟩
  simpa [Name.isKeyword] using hfree.1

theorem field_of_beginning {beginning : String} (hword : Name.IsWord beginning)
    (hkeywords : ∀ keyword ∈ Name.rawKeywords ++ Name.reserved,
      ¬ beginning.toList <+: keyword.toList) {name : String}
    (hname : ∀ character ∈ name.toList, Name.canContinue character = true) :
    field (beginning ++ name) = .ok ⟨beginning ++ name⟩ := by
  have hfree : beginning ++ name ∉ Name.rawKeywords ++ Name.reserved := by
    refine fun hmem => hkeywords _ hmem ?_
    rw [String.toList_append]
    exact List.prefix_append _ _
  rw [List.mem_append, not_or] at hfree
  have hkeyword : Name.isKeyword (beginning ++ name) = false := by
    simpa [Name.isKeyword] using hfree.1
  exact field_eq_ok.mpr ⟨Name.fault?_eq_none.mpr ⟨hword.append hname, hfree.2⟩, by simp [hkeyword]⟩

end Identifier

end ProviderForge

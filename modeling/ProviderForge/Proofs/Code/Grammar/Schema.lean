import ProviderForge.Code.Schema
import ProviderForge.Proofs.Code.Grammar.Parts
import ProviderForge.Proofs.Definition.Nesting

namespace ProviderForge

open Code Grammar Result

namespace Attribute

structure IsFragmentFree (declared : Attribute) : Prop where
  validators : declared.options.validators = []
  planModifiers : declared.options.planModifiers = []
  customFill : declared.options.customFill = none

def AreFragmentFree (siblings : List Attribute) : Prop :=
  ∀ inner ∈ everywhere siblings, inner.IsFragmentFree

instance (declared : Attribute) : Decidable declared.IsFragmentFree :=
  decidable_of_iff
    (declared.options.validators = [] ∧ declared.options.planModifiers = [] ∧
      declared.options.customFill = none)
    ⟨fun ⟨hvalidators, hplanModifiers, hcustomFill⟩ => ⟨hvalidators, hplanModifiers, hcustomFill⟩,
      fun hfree => ⟨hfree.validators, hfree.planModifiers, hfree.customFill⟩⟩

instance (siblings : List Attribute) : Decidable (AreFragmentFree siblings) :=
  inferInstanceAs (Decidable (∀ inner ∈ everywhere siblings, inner.IsFragmentFree))

theorem AreFragmentFree.mem {siblings : List Attribute} (hfree : AreFragmentFree siblings)
    {declared : Attribute} (hmem : declared ∈ siblings) : declared.IsFragmentFree :=
  hfree declared (mem_everywhere hmem)

end Attribute

namespace Schema

theorem isPath_elementCode (element : ElementType) : IsPath false element.code := by
  cases element
  exact isPath_word (by decide)

theorem isCallee_valueFamily {family : String} (hname : Token.isName family = true) :
    IsCallee true (valueFamily family) :=
  isCallee_defaultOf (isPath_append (isPath_word (by decide)) (.word (.inl hname)))

theorem isCallee_collectionFamily {family : String} {element : Code}
    (hname : Token.isName family = true) (helement : IsArgument element) :
    IsCallee true (collectionFamily family element) :=
  isCallee_defaultOf (isPath_turbofish (by decide) hname helement)

theorem isCallee_plainType (shape : PlainShape) : IsCallee true (plainType shape) := by
  cases shape with
  | string | int | bool | object => exact isCallee_valueFamily (by decide)
  | list element | set element =>
      exact isCallee_collectionFamily (by decide) (isPath_elementCode element).isArgument

theorem isPath_entryType (kind : AttributeKind) : IsPath true (entryType kind) := by
  cases kind <;> exact isPath_path (by decide)

theorem isEntries_flag {flagName : String} (hname : Token.isName flagName = true) :
    IsEntries (entry flagName (word "true")) :=
  .entry hname (isCallee_truth (.inl rfl)).isExpression

theorem isEntries_flags (requiredness : Requiredness) : IsEntries requiredness.flags := by
  cases requiredness with
  | required | optional | computed => exact isEntries_flag (by decide)
  | computedOptional => exact (isEntries_flag (by decide)).append (isEntries_flag (by decide))

theorem isEntries_deprecation (notice : String) :
    IsEntries (entry "deprecation_message" (call (word "Some") (ownedText notice))) := by
  have hsome : IsCallee true (call (word "Some") (ownedText notice)) :=
    (isCallee_word (by decide)).call (.single (isCallee_ownedText notice).isExpression)
  exact .entry (by decide) hsome.isExpression

theorem isCallee_assemble (declared : Attribute) {customType nested : Code}
    (hcustomType : IsCallee true customType) (hnested : IsEntries nested) :
    IsCallee true (assemble declared [] [] customType nested) := by
  have hdescription : IsEntries
      (entry "markdown_description" (ownedText declared.markdownDescription)) :=
    .entry (by decide) (isCallee_ownedText _).isExpression
  have htype : IsEntries (entry "custom_type" customType) :=
    .entry (by decide) hcustomType.isExpression
  unfold assemble
  simp only [List.append_nil]
  refine .record (isPath_entryType declared.kind) (isFields_remainingDefaults ?_)
  refine ((((hdescription.append ?_).append (isEntries_flags _)).append ?_).append htype).append
    hnested
  · cases declared.options.deprecation with
    | none => exact .nil
    | some notice => exact isEntries_deprecation notice
  · split
    · exact isEntries_flag (by decide)
    · exact .nil

theorem isEntries_nestedObject {members : Code} (hmembers : IsCallee true members) :
    IsEntries (nestedObject members) := by
  have hattributes : IsEntries (entry "attributes" members) :=
    .entry (by decide) hmembers.isExpression
  exact .entry (by decide)
    (IsCallee.record (isPath_path (by decide)) (isFields_of_entries hattributes)).isExpression

theorem isExpression_member (declared : Attribute) {value : Code} (hvalue : IsCallee true value) :
    IsExpression true (member declared value) :=
  (IsCallee.tuple (isCallee_ownedText _).isExpression
    (.single (hvalue.isAccess.invoke (by decide) .nil).isExpression)).isExpression

theorem isCallee_table {members : List Code} (hmembers : ∀ code ∈ members, IsExpression true code) :
    IsCallee true (table members) :=
  (isCallee_path (by decide)).call (.single (IsCallee.array (.listed hmembers)).isExpression)

theorem validatorsCode_none {options : AttributeOptions} (hnone : options.validators = []) :
    validatorsCode options = .ok [] := by
  simp [validatorsCode, expressions, hnone]

theorem planModifiersCode_none {options : AttributeOptions} (hnone : options.planModifiers = []) :
    planModifiersCode options = .ok [] := by
  simp [planModifiersCode, expressions, hnone]

end Schema

open Schema

mutual
theorem isCallee_schemaEntry {parent : String} :
    (declared : Attribute) → (∀ inner ∈ declared.withNested, inner.IsFragmentFree) →
      ∀ {code : Code}, declared.schemaEntry parent = .ok code → IsCallee true code
  | .plain options shape, hfree, code, hcode => by
      have hown := hfree _ (Attribute.mem_withNested_self _)
      have hvalidators : validatorsCode options = .ok [] := validatorsCode_none hown.validators
      have hplanModifiers : planModifiersCode options = .ok [] :=
        planModifiersCode_none hown.planModifiers
      simp only [Attribute.schemaEntry, hvalidators, hplanModifiers, ok_bind, pure_eq_ok] at hcode
      subst hcode
      exact isCallee_assemble _ (isCallee_plainType shape) .nil
  | .nested options children record, hfree, code, hcode => by
      have hown := hfree _ (Attribute.mem_withNested_self _)
      have hvalidators : validatorsCode options = .ok [] := validatorsCode_none hown.validators
      have hplanModifiers : planModifiersCode options = .ok [] :=
        planModifiersCode_none hown.planModifiers
      simp only [Attribute.schemaEntry, hvalidators, hplanModifiers, ok_bind, bind_eq_ok,
        pure_eq_ok] at hcode
      obtain ⟨child, hchild, members, hmembers, rfl⟩ := hcode
      have hbelow : Attribute.AreFragmentFree children := fun inner hmem =>
        hfree inner (List.mem_cons_of_mem _ hmem)
      have hargument : IsArgument (ident child) :=
        (isPath_word (.inl (Identifier.isName_of_type hchild))).isArgument
      have hinner := isExpression_schemaMembers children hbelow hmembers
      exact isCallee_assemble _ (isCallee_collectionFamily (by decide) hargument)
        (isEntries_nestedObject (isCallee_table hinner))

theorem isExpression_schemaMembers {parent : String} :
    (siblings : List Attribute) → Attribute.AreFragmentFree siblings →
      ∀ {codes : List Code}, Attribute.schemaMembers parent siblings = .ok codes →
        ∀ code ∈ codes, IsExpression true code
  | [], _, codes, hcodes => by
      simp only [Attribute.schemaMembers, pure_eq_ok] at hcodes
      simp [← hcodes]
  | first :: rest, hfree, codes, hcodes => by
      simp only [Attribute.schemaMembers, bind_eq_ok, pure_eq_ok] at hcodes
      obtain ⟨value, hvalue, members, hmembers, rfl⟩ := hcodes
      have hfirst := isCallee_schemaEntry first
        (fun inner hmem => hfree inner (List.mem_append_left _ hmem)) hvalue
      have hrest := isExpression_schemaMembers rest
        (fun inner hmem => hfree inner (List.mem_append_right _ hmem)) hmembers
      exact List.forall_mem_cons.mpr ⟨isExpression_member first hfirst, hrest⟩
end

theorem isCallee_schemaTable {parent : String} {siblings : List Attribute}
    (hfree : Attribute.AreFragmentFree siblings) {code : Code}
    (hcode : Attribute.schemaTable parent siblings = .ok code) : IsCallee true code := by
  simp only [Attribute.schemaTable, bind_eq_ok, pure_eq_ok] at hcode
  obtain ⟨members, hmembers, rfl⟩ := hcode
  exact isCallee_table (isExpression_schemaMembers siblings hfree hmembers)

end ProviderForge

import ProviderForge.Model
import ProviderForge.Proofs.Code.Decision
import ProviderForge.Proofs.Definition.Nesting
import ProviderForge.Proofs.Name.Words

namespace ProviderForge

open Code Result

@[simp] theorem Traced.result_report {ε : Type} (event : Event) :
    (Traced.report event : Traced ε Unit).result = .ok () := rfl

@[simp] theorem Traced.result_reportAll {ε : Type} (events : List Event) :
    (Traced.reportAll events : Traced ε Unit).result = .ok () := rfl

namespace Attribute

def FragmentsLex (declared : Attribute) : Prop :=
  ∀ fragment ∈ declared.options.validators ++ declared.options.planModifiers, Lexes fragment

def NamesRecord : Attribute → Prop
  | plain _ _ => True
  | nested _ _ record => Succeeds (Identifier.type record)

/-- What a fill operation asks of an attribute: unless it is left out, its own statement or the
members of its paths. -/
def IsFillable (declared : Attribute) : Prop :=
  declared.options.skipFill = true ∨
    match declared.options.customFill with
    | some fragment => Lexes fragment
    | none =>
        ∀ member ∈ declared.options.source.getD [] ++ declared.options.destination.getD [],
          Succeeds (Identifier.field member)

def AreUsable (siblings : List Attribute) : Prop :=
  ∀ declared ∈ everywhere siblings, Name.fault? declared.name = none

theorem mem_everywhere_iff {inner : Attribute} {siblings : List Attribute} :
    inner ∈ everywhere siblings ↔
      inner ∈ siblings ∨ ∃ declared ∈ siblings, inner ∈ everywhere declared.children := by
  induction siblings with
  | nil => simp [everywhere]
  | cons first rest ih =>
      have hfirst : inner ∈ first.withNested ↔
          inner = first ∨ inner ∈ everywhere first.children := by
        cases first <;> simp [withNested, children, everywhere]
      rw [everywhere_cons, List.mem_append, hfirst, ih]
      simp only [List.mem_cons, or_and_right, exists_or, exists_eq_left]
      grind

theorem forall_everywhere_iff {holds : Attribute → Prop} {siblings : List Attribute} :
    (∀ inner ∈ everywhere siblings, holds inner) ↔
      (∀ declared ∈ siblings, holds declared) ∧
        ∀ declared ∈ siblings, ∀ inner ∈ everywhere declared.children, holds inner := by
  constructor
  · intro hall
    refine ⟨fun declared hmem => hall declared (mem_everywhere hmem), ?_⟩
    intro declared hmem inner hinner
    exact hall inner (mem_everywhere_iff.mpr (.inr ⟨declared, hmem, hinner⟩))
  · rintro ⟨hsiblings, hbelow⟩ inner hinner
    rcases mem_everywhere_iff.mp hinner with hmem | ⟨declared, hmem, hinner⟩
    · exact hsiblings inner hmem
    · exact hbelow declared hmem inner hinner

namespace AreUsable

variable {siblings : List Attribute}

theorem name (husable : AreUsable siblings) {declared : Attribute} (hmem : declared ∈ siblings) :
    Name.fault? declared.name = none :=
  husable declared (mem_everywhere hmem)

theorem isWord (husable : AreUsable siblings) {declared : Attribute}
    (hmem : declared ∈ siblings) : Name.IsWord declared.name :=
  (Name.fault?_eq_none.mp (husable.name hmem)).1

theorem children (husable : AreUsable siblings) {declared : Attribute}
    (hmem : declared ∈ siblings) : AreUsable declared.children :=
  fun inner hinner => husable inner (mem_everywhere_iff.mpr (.inr ⟨declared, hmem, hinner⟩))

theorem tail {first : Attribute} (husable : AreUsable (first :: siblings)) :
    AreUsable siblings :=
  fun inner hinner => husable inner (by rw [everywhere_cons]; exact List.mem_append_right _ hinner)

end AreUsable

theorem decides_expressions (fieldName context : String) (fragments : List String) :
    Decides (Schema.expressions fieldName context fragments)
      (∀ fragment ∈ fragments, Lexes fragment) := by
  unfold Schema.expressions
  cases fragments with
  | nil => exact (Decides.of_ok rfl).congr (by simp)
  | cons first rest =>
      exact (Decides.mapM fun fragment _ => decides_ofFragment context fragment).map _

theorem decides_optionsCode (options : AttributeOptions)
    (finish : Code → Code → Except Failure Code)
    {accepted : Prop} (hfinish : ∀ validators planModifiers,
      Decides (finish validators planModifiers) accepted) :
    Decides (do
        let validators ← Schema.validatorsCode options
        let planModifiers ← Schema.planModifiersCode options
        finish validators planModifiers)
      ((∀ fragment ∈ options.validators ++ options.planModifiers, Lexes fragment) ∧ accepted) := by
  have hboth := (decides_expressions "validators" s!"validators of '{options.name}'"
    options.validators).bind fun validators _ =>
      (decides_expressions "plan_modifiers" s!"plan modifiers of '{options.name}'"
        options.planModifiers).bind fun planModifiers _ => hfinish validators planModifiers
  refine hboth.congr ?_
  simp only [List.forall_mem_append, and_assoc]

mutual
theorem decides_schemaEntry {parent : String} (hparent : Name.IsWord parent) :
    (declared : Attribute) → Name.IsWord declared.name → AreUsable declared.children →
      Decides (declared.schemaEntry parent) (∀ inner ∈ declared.withNested, inner.FragmentsLex)
  | .plain options shape, _, _ => by
      rw [schemaEntry]
      have hentry := decides_optionsCode options
        (fun validators planModifiers => .ok (Schema.assemble (.plain options shape) validators
          planModifiers (Schema.plainType shape) []))
        fun _ _ => Decides.of_ok rfl
      exact hentry.congr (by simp [withNested, FragmentsLex])
  | .nested options children record, hname, husable => by
      have hword := Name.isWord_nestedType hparent hname
      have htype := Identifier.type_nestedType hparent hname
      have hmembers := decides_schemaMembers hword children husable
      rw [schemaEntry]
      have hentry := decides_optionsCode options _ fun validators planModifiers =>
        hmembers.map fun members => Schema.assemble (.nested options children record) validators
          planModifiers (Schema.nestedType ⟨Name.nestedType parent options.name⟩)
          (Schema.nestedObject (Schema.table members))
      simp only [name, options_nested] at htype
      simp only [htype, ok_bind]
      exact hentry.congr (by simp [withNested, FragmentsLex])

theorem decides_schemaMembers {parent : String} (hparent : Name.IsWord parent) :
    (siblings : List Attribute) → AreUsable siblings →
      Decides (schemaMembers parent siblings)
        (∀ inner ∈ everywhere siblings, inner.FragmentsLex)
  | [], _ => by
      rw [schemaMembers]
      exact (Decides.of_ok rfl).congr (by simp [everywhere])
  | first :: rest, husable => by
      have hfirst := decides_schemaEntry hparent first (husable.isWord List.mem_cons_self)
        (husable.children List.mem_cons_self)
      have hrest := decides_schemaMembers hparent rest husable.tail
      rw [schemaMembers]
      have hboth := hfirst.bind fun value _ => hrest.map (Schema.member first value :: ·)
      exact hboth.congr (by rw [everywhere_cons, List.forall_mem_append])
end

theorem decides_schemaTable {parent : String} (hparent : Name.IsWord parent)
    {siblings : List Attribute} (husable : AreUsable siblings) :
    Decides (schemaTable parent siblings)
      (∀ inner ∈ everywhere siblings, inner.FragmentsLex) :=
  (decides_schemaMembers hparent siblings husable).map Schema.table

theorem valueType_ok {parent : String} (hparent : Name.IsWord parent) {declared : Attribute}
    (hname : Name.IsWord declared.name) : Succeeds (declared.valueType parent) := by
  cases declared with
  | plain options shape => exact ⟨_, rfl⟩
  | nested options children record =>
      have htype := Identifier.type_nestedType hparent hname
      simp only [name, options_nested] at htype
      exact ⟨_, by rw [valueType, htype, ok_bind]; rfl⟩

theorem fieldDeclaration_ok {parent : String} (hparent : Name.IsWord parent)
    {declared : Attribute} (hname : Name.fault? declared.name = none) :
    Succeeds (declared.fieldDeclaration parent) := by
  obtain ⟨identifier, hfield⟩ := Identifier.succeeds_field.mpr hname
  obtain ⟨type, htype⟩ := valueType_ok hparent (Name.fault?_eq_none.mp hname).1
  exact ⟨_, by rw [fieldDeclaration, hfield, ok_bind, htype, ok_bind]; rfl⟩

/-- Without a path of its own a side uses the attribute's name, which is usable. -/
theorem fields_of_path {declared : Attribute} (hname : Name.fault? declared.name = none)
    (members : Option (List String)) :
    (∀ member ∈ members.getD [declared.name], Succeeds (Identifier.field member)) ↔
      ∀ member ∈ members.getD [], Succeeds (Identifier.field member) := by
  cases members with
  | none => simp [Identifier.succeeds_field, hname]
  | some members => simp

theorem decides_conversion {parent : String} (hparent : Name.IsWord parent)
    {declared : Attribute} (hname : Name.fault? declared.name = none)
    (hfilled : declared.options.skipFill = false) :
    Decides (declared.conversion parent "data" "self") declared.IsFillable := by
  unfold conversion IsFillable
  dsimp only
  cases declared.options.customFill with
  | some fragment =>
      exact (decides_ofFragment _ fragment).congr (by simp [hfilled])
  | none =>
      have horigin := decides_fieldPath (.inr rfl) (declared.options.source.getD [declared.name])
      have htarget := decides_fieldPath (.inl rfl)
        (declared.options.destination.getD [declared.name])
      have hwritten : ∀ origin target, Decides
          (match declared with
            | .plain options shape => .ok (Fill.plain declared.options origin target shape)
            | .nested _ _ _ => do
                let child ← Identifier.type (Name.nestedType parent declared.options.name)
                return Fill.nested child origin target) True := by
        intro origin target
        cases declared with
        | plain options shape => exact Decides.of_ok rfl
        | nested options children record =>
            have htype := Identifier.type_nestedType hparent (Name.fault?_eq_none.mp hname).1
            exact Decides.of_ok (by dsimp only; rw [← name, htype]; rfl)
      have hboth := horigin.bind fun origin _ => htarget.bind fun target _ =>
        hwritten origin target
      rw [fields_of_path hname, fields_of_path hname] at hboth
      refine hboth.congr ?_
      rw [List.forall_mem_append]
      simp [hfilled]

end Attribute

namespace Model

open Attribute

theorem decides_compileFill {parent : String} (hparent : Succeeds (Identifier.type parent))
    {siblings : List Attribute} (husable : AreUsable siblings) (sourceType : Code) :
    Decides (compileFill parent siblings sourceType)
      (∀ declared ∈ siblings, declared.IsFillable) := by
  obtain ⟨identifier, hidentifier⟩ := hparent
  have hconversion : ∀ declared ∈ siblings.filter isFilled,
      Decides (declared.conversion parent "data" "self") declared.IsFillable := by
    intro declared hmem
    obtain ⟨hmem, hfilled⟩ := List.mem_filter.mp hmem
    exact decides_conversion (Identifier.isWord_of_type hidentifier) (husable.name hmem)
      (by simpa [isFilled] using hfilled)
  rw [compileFill, hidentifier, ok_bind]
  refine (Decides.mapM hconversion).bind_pure.congr ?_
  constructor
  · intro hall declared hmem
    by_cases hfilled : isFilled declared = true
    · exact hall declared (List.mem_filter.mpr ⟨hmem, hfilled⟩)
    · exact .inl (by simpa [isFilled] using hfilled)
  · intro hall declared hmem
    exact hall declared ((List.mem_filter.mp hmem).1)

theorem decides_compileRecord {parent : String} (hparent : Succeeds (Identifier.type parent))
    {siblings : List Attribute} (husable : AreUsable siblings) (sourceType : Code) (fills : Bool) :
    Decides (compileRecord parent siblings sourceType fills)
      (fills = true → ∀ declared ∈ siblings, declared.IsFillable) := by
  obtain ⟨identifier, hidentifier⟩ := hparent
  have hword := Identifier.isWord_of_type hidentifier
  have hfields : Decides (siblings.mapM (Attribute.fieldDeclaration parent)) True := by
    have hfield : ∀ declared ∈ siblings, Decides (declared.fieldDeclaration parent) True := by
      intro declared hmem
      obtain ⟨code, hcode⟩ := fieldDeclaration_ok hword (husable.name hmem)
      exact .of_ok hcode
    exact (Decides.mapM hfield).congr (by simp)
  rw [compileRecord, hidentifier, ok_bind]
  cases fills with
  | false =>
      exact (hfields.bind fun _ _ => Decides.of_ok rfl).congr (by simp)
  | true =>
      have hfill := (decides_compileFill ⟨identifier, hidentifier⟩ husable sourceType).map some
      exact (hfields.bind fun fields _ =>
        hfill.map fun fill => (recordDeclaration identifier fields, fill)).congr (by simp)

mutual
theorem decides_compileNested {parent : String} (hparent : Name.IsWord parent) (fills : Bool) :
    (siblings : List Attribute) → AreUsable siblings →
      Decides (compileNested parent fills siblings).result
        ((∀ inner ∈ everywhere siblings, inner.NamesRecord) ∧
          (fills = true → ∀ declared ∈ siblings, ∀ inner ∈ everywhere declared.children,
            inner.IsFillable))
  | [], _ => by
      rw [compileNested]
      exact (Decides.of_ok rfl).congr (by simp [everywhere])
  | first :: rest, husable => by
      have hfirst := decides_compileChild hparent fills first (husable.isWord List.mem_cons_self)
        (husable.children List.mem_cons_self)
      have hrest := decides_compileNested hparent fills rest husable.tail
      rw [compileNested]
      simp only [Traced.result_bind, Traced.result_pure]
      have hboth := hfirst.bind fun models _ => hrest.map (models ++ ·)
      refine hboth.congr ?_
      rw [everywhere_cons, List.forall_mem_append, List.forall_mem_cons]
      grind

theorem decides_compileChild {parent : String} (hparent : Name.IsWord parent) (fills : Bool) :
    (declared : Attribute) → Name.IsWord declared.name → AreUsable declared.children →
      Decides (compileChild parent fills declared).result
        ((∀ inner ∈ declared.withNested, inner.NamesRecord) ∧
          (fills = true → ∀ inner ∈ everywhere declared.children, inner.IsFillable))
  | .plain options shape, _, _ => by
      rw [compileChild]
      exact (Decides.of_ok rfl).congr
        (by simp [withNested, NamesRecord, children, everywhere])
  | .nested options children record, hname, husable => by
      have hword := Name.isWord_nestedType hparent hname
      have htype := Identifier.type_nestedType hparent hname
      have hnested := decides_compileNested hword fills children husable
      have hrecord := fun sourceType =>
        decides_compileRecord ⟨_, htype⟩ husable sourceType fills
      rw [compileChild]
      simp only [Traced.result_bind, Traced.result_ofExcept, Traced.result_report, ok_bind]
      have hall := (Identifier.decides_type record).bind fun identifier _ =>
        (hrecord (remoteType identifier)).bind fun parts _ =>
          hnested.map fun models => [node (Name.nestedType parent options.name) parts.1 parts.2
            models]
      refine hall.congr ?_
      constructor
      · rintro ⟨hrecord, hfilled, hrecords, hbelow⟩
        exact ⟨List.forall_mem_cons.mpr ⟨hrecord, hrecords⟩, fun hfills =>
          forall_everywhere_iff.mpr ⟨hfilled hfills, hbelow hfills⟩⟩
      · rintro ⟨hrecords, hfilled⟩
        obtain ⟨hrecord, hrecords⟩ := List.forall_mem_cons.mp hrecords
        exact ⟨hrecord, fun hfills => (forall_everywhere_iff.mp (hfilled hfills)).1, hrecords,
          fun hfills => (forall_everywhere_iff.mp (hfilled hfills)).2⟩
end

theorem decides_compile {name : String} (hname : Succeeds (Identifier.type name))
    {siblings : List Attribute} (husable : AreUsable siblings) (sourceType : Code) (fills : Bool) :
    Decides (compile name siblings sourceType fills).result
      ((∀ inner ∈ everywhere siblings, inner.NamesRecord) ∧
        (fills = true → ∀ inner ∈ everywhere siblings, inner.IsFillable)) := by
  obtain ⟨identifier, hidentifier⟩ := hname
  have hnested := decides_compileNested (Identifier.isWord_of_type hidentifier) fills siblings
    husable
  have hrecord := decides_compileRecord ⟨identifier, hidentifier⟩ husable sourceType fills
  unfold compile
  simp only [Traced.result_bind, Traced.result_ofExcept, Traced.result_report, ok_bind]
  have hboth := hrecord.bind fun parts _ => hnested.map fun models =>
    node name parts.1 parts.2 models
  refine hboth.congr ?_
  constructor
  · rintro ⟨hfilled, hrecords, hbelow⟩
    exact ⟨hrecords, fun hfills => forall_everywhere_iff.mpr ⟨hfilled hfills, hbelow hfills⟩⟩
  · rintro ⟨hrecords, hfilled⟩
    exact ⟨fun hfills => (forall_everywhere_iff.mp (hfilled hfills)).1, hrecords,
      fun hfills => (forall_everywhere_iff.mp (hfilled hfills)).2⟩

end Model

end ProviderForge

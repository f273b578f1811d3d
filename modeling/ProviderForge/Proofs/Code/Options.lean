import ProviderForge.Proofs.Code.Agreement

/-!
Which options reach which code. The schema reads nothing of what the fill operations read, and the
models read nothing of what only the schema reads, at every depth. Attribute lists that differ in
some options alone are the same once these options are forgotten.
-/

namespace ProviderForge

open Code Result

namespace AttributeOptions

def withoutFill (options : AttributeOptions) : AttributeOptions :=
  { options with
    nullable := false, source := none, sourceForm := none, destination := none,
    skipFill := false, customFill := none }

def withoutSchema (options : AttributeOptions) : AttributeOptions :=
  { options with
    requiredness := .computed, sensitive := false, validators := [], planModifiers := [] }

end AttributeOptions

namespace Attribute

mutual
/-- Changes the options at every depth, and the remote records of the nested sets. -/
def rewrite (change : AttributeOptions → AttributeOptions) (rename : String → String) :
    Attribute → Attribute
  | plain options shape => plain (change options) shape
  | nested options children record =>
      nested (change options) (rewriteAll change rename children) (rename record)

def rewriteAll (change : AttributeOptions → AttributeOptions) (rename : String → String) :
    List Attribute → List Attribute
  | [] => []
  | declared :: rest => declared.rewrite change rename :: rewriteAll change rename rest
end

section

variable {change : AttributeOptions → AttributeOptions} {rename : String → String}

theorem rewriteAll_eq_map (siblings : List Attribute) :
    rewriteAll change rename siblings = siblings.map (rewrite change rename) := by
  induction siblings with
  | nil => rfl
  | cons declared rest ih => rw [rewriteAll, ih, List.map_cons]

@[simp] theorem rewrite_plain (options : AttributeOptions) (shape : PlainShape) :
    (plain options shape).rewrite change rename = plain (change options) shape := rfl

@[simp] theorem rewrite_nested (options : AttributeOptions) (children : List Attribute)
    (record : String) : (nested options children record).rewrite change rename =
      nested (change options) (children.map (rewrite change rename)) (rename record) := by
  rw [rewrite, rewriteAll_eq_map]

@[simp] theorem options_rewrite (declared : Attribute) :
    (declared.rewrite change rename).options = change declared.options := by
  cases declared <;> simp

@[simp] theorem kind_rewrite (declared : Attribute) :
    (declared.rewrite change rename).kind = declared.kind := by
  cases declared <;> simp [kind]

end

/-- Nothing is left of what fills the attribute, but for the name of some record: a nested set has
to name one. -/
def forgetFill : Attribute → Attribute :=
  rewrite AttributeOptions.withoutFill fun _ => "Record"

def forgetSchema : Attribute → Attribute :=
  rewrite AttributeOptions.withoutSchema id

end Attribute

namespace Attribute

mutual
theorem schemaEntry_forgetFill (parent : String) : (declared : Attribute) →
    declared.forgetFill.schemaEntry parent = declared.schemaEntry parent
  | plain _ _ => rfl
  | nested options children record => by
      simp only [forgetFill, rewrite_nested, schemaEntry]
      have hmembers := schemaMembers_forgetFill (Name.nestedType parent options.name) children
      rw [forgetFill] at hmembers
      simp only [AttributeOptions.withoutFill, hmembers]
      rfl

theorem schemaMembers_forgetFill (parent : String) : (siblings : List Attribute) →
    schemaMembers parent (siblings.map forgetFill) = schemaMembers parent siblings
  | [] => rfl
  | declared :: rest => by
      rw [List.map_cons, schemaMembers, schemaEntry_forgetFill parent declared,
        schemaMembers_forgetFill parent rest, schemaMembers]
      cases declared <;> rfl
end

theorem schemaTable_forgetFill (parent : String) (siblings : List Attribute) :
    schemaTable parent (siblings.map forgetFill) = schemaTable parent siblings := by
  rw [schemaTable, schemaMembers_forgetFill, schemaTable]

theorem fieldDeclaration_forgetFill (parent : String) (declared : Attribute) :
    declared.forgetFill.fieldDeclaration parent = declared.fieldDeclaration parent := by
  cases declared <;> rfl

end Attribute

namespace Model

open Attribute

mutual
def withoutFills : Model → Model
  | node name declaration _ nested => node name declaration none (withoutFillsOf nested)

def withoutFillsOf : List Model → List Model
  | [] => []
  | model :: rest => model.withoutFills :: withoutFillsOf rest
end

theorem withoutFillsOf_append (models others : List Model) :
    withoutFillsOf (models ++ others) = withoutFillsOf models ++ withoutFillsOf others := by
  induction models with
  | nil => rfl
  | cons model rest ih =>
      rw [List.cons_append, withoutFillsOf, withoutFillsOf, ih, List.cons_append]

variable {parent name : String} {siblings : List Attribute} {sourceType : Code} {fills : Bool}

theorem compileRecord_forgetFill {declaration : Code} {fill : Option Code}
    (hrecord : compileRecord name siblings sourceType fills = .ok (declaration, fill))
    (other : Code) :
    compileRecord name (siblings.map forgetFill) other false = .ok (declaration, none) := by
  obtain ⟨hidentifier, ⟨fields, hfields, rfl⟩, -⟩ := compileRecord_ok hrecord
  simp only [compileRecord, hidentifier, ok_bind, List.mapM_map, Function.comp_def,
    fieldDeclaration_forgetFill, hfields]
  rfl

mutual
theorem compileChild_forgetFill : (declared : Attribute) → {parent : String} →
    {models : List Model} → (compileChild parent fills declared).result = .ok models →
    (compileChild parent false declared.forgetFill).result = .ok (withoutFillsOf models)
  | .plain _ _, _, _, hmodels => by
      obtain rfl := Except.ok.inj hmodels
      rfl
  | .nested options children record, parent, models, hmodels => by
      obtain ⟨model, rfl, hmodel⟩ := compileChild_nested hmodels
      obtain ⟨declaration, fill, nested, hrecord, hnested, rfl⟩ := compile_ok.mp hmodel
      have hrecord := compileRecord_forgetFill hrecord (remoteType ⟨"Record"⟩)
      have hnested := compileNested_forgetFill children hnested
      -- the record left by forgetting is usable, whatever the declared one was
      have hname : Identifier.type "Record" = .ok ⟨"Record"⟩ := by decide
      rw [forgetFill] at hrecord hnested
      simp only [forgetFill, rewrite_nested, compileChild, Traced.result_bind,
        Traced.result_ofExcept, Traced.result_report, Traced.result_pure, hname, ok_bind,
        AttributeOptions.withoutFill, hrecord, hnested]
      rfl

theorem compileNested_forgetFill : (siblings : List Attribute) → {parent : String} →
    {models : List Model} → (compileNested parent fills siblings).result = .ok models →
    (compileNested parent false (siblings.map forgetFill)).result = .ok (withoutFillsOf models)
  | [], _, _, hmodels => by
      obtain rfl := Except.ok.inj hmodels
      rfl
  | declared :: rest, parent, models, hmodels => by
      simp only [compileNested, Traced.result_bind, Traced.result_pure, bind_eq_ok,
        Except.ok.injEq] at hmodels
      obtain ⟨first, hfirst, others, hothers, rfl⟩ := hmodels
      simp only [List.map_cons, compileNested, Traced.result_bind, Traced.result_pure,
        compileChild_forgetFill declared hfirst, compileNested_forgetFill rest hothers, ok_bind,
        withoutFillsOf_append]
end

theorem compile_forgetFill {model : Model}
    (hmodel : (compile name siblings sourceType fills).result = .ok model) (other : Code) :
    (compile name (siblings.map forgetFill) other false).result = .ok model.withoutFills := by
  obtain ⟨declaration, fill, nested, hrecord, hnested, rfl⟩ := compile_ok.mp hmodel
  exact compile_ok.mpr ⟨declaration, none, withoutFillsOf nested,
    compileRecord_forgetFill hrecord other, compileNested_forgetFill siblings hnested, rfl⟩

/-- A change that every part of a fill operation is blind to leaves the operation as it is. -/
theorem compileFill_map {change : Attribute → Attribute}
    (hconversion : ∀ declared, (change declared).conversion name "data" "self" =
      declared.conversion name "data" "self")
    (hfilled : ∀ declared, isFilled (change declared) = isFilled declared)
    (happends : ∀ declared, appends (change declared) = appends declared) :
    compileFill name (siblings.map change) sourceType = compileFill name siblings sourceType := by
  have hbinding : ∀ filled : List Attribute,
      diagnosticsBinding (filled.map change) = diagnosticsBinding filled := fun filled => by
    simp only [diagnosticsBinding, List.any_map, Function.comp_def, happends]
  simp only [compileFill, List.filter_map, Function.comp_def, hfilled, List.mapM_map, hconversion,
    hbinding]

theorem compileRecord_forgetSchema (name : String) (siblings : List Attribute) (sourceType : Code)
    (fills : Bool) : compileRecord name (siblings.map forgetSchema) sourceType fills =
      compileRecord name siblings sourceType fills := by
  have hfields : ∀ declared : Attribute,
      declared.forgetSchema.fieldDeclaration name = declared.fieldDeclaration name := by
    intro declared
    cases declared <;> rfl
  have hfill : compileFill name (siblings.map forgetSchema) sourceType =
      compileFill name siblings sourceType := by
    apply compileFill_map <;> intro declared <;> cases declared <;> rfl
  simp only [compileRecord, List.mapM_map, Function.comp_def, hfields, hfill]

mutual
theorem compileChild_forgetSchema (fills : Bool) : (declared : Attribute) → (parent : String) →
    compileChild parent fills declared.forgetSchema = compileChild parent fills declared
  | .plain _ _, _ => rfl
  | .nested options children record, parent => by
      have hrecord := compileRecord_forgetSchema (Name.nestedType parent options.name) children
      have hnested := compileNested_forgetSchema fills children
        (Name.nestedType parent options.name)
      rw [forgetSchema] at hrecord hnested
      simp only [forgetSchema, rewrite_nested, compileChild, AttributeOptions.withoutSchema, id,
        List.length_map, hrecord, hnested]

theorem compileNested_forgetSchema (fills : Bool) : (siblings : List Attribute) →
    (parent : String) → compileNested parent fills (siblings.map forgetSchema) =
      compileNested parent fills siblings
  | [], _ => rfl
  | declared :: rest, parent => by
      rw [List.map_cons, compileNested, compileChild_forgetSchema fills declared,
        compileNested_forgetSchema fills rest, compileNested]
end

theorem compile_forgetSchema (name : String) (siblings : List Attribute) (sourceType : Code)
    (fills : Bool) : compile name (siblings.map forgetSchema) sourceType fills =
      compile name siblings sourceType fills := by
  simp only [compile, List.length_map, compileRecord_forgetSchema, compileNested_forgetSchema]

end Model

/-- Neither side reads the options of the other. Two attribute lists that differ at most in what
fills them have one schema, or fail with one fault; where both have models, the trees are the same
but for their fill operations. Two that differ at most in what only the schema announces have one
model tree, or fail with one fault. -/
theorem fill_and_schema_options_independent :
    (∀ left right : List Attribute,
      left.map Attribute.forgetFill = right.map Attribute.forgetFill →
        (∀ parent, Attribute.schemaTable parent left = Attribute.schemaTable parent right) ∧
        ∀ name source other fills others model remade,
          (Model.compile name left source fills).result = .ok model →
          (Model.compile name right other others).result = .ok remade →
          model.withoutFills = remade.withoutFills) ∧
      ∀ left right : List Attribute,
        left.map Attribute.forgetSchema = right.map Attribute.forgetSchema →
          ∀ name source fills,
            Model.compile name left source fills = Model.compile name right source fills := by
  refine ⟨fun left right hforgets => ⟨fun parent => ?_, ?_⟩, ?_⟩
  · rw [← Attribute.schemaTable_forgetFill, hforgets, Attribute.schemaTable_forgetFill]
  · intro name source other fills others model remade hmodel hremade
    have hleft := Model.compile_forgetFill hmodel source
    have hright := Model.compile_forgetFill hremade source
    rw [hforgets, hright] at hleft
    exact (Except.ok.inj hleft).symm
  · intro left right hforgets name source fills
    rw [← Model.compile_forgetSchema, hforgets, Model.compile_forgetSchema]

def slugTeams (record : String) (change : Attribute → Attribute) : List Attribute :=
  [.setNested "teams" "The teams." record [change (.string "slug" "The slug of the team.")]]

/-- A slug that is left out of the fill operation, in teams of another record, is announced and
declared as before; a required one is compiled as before. -/
theorem slugTeams_independent :
    (∃ model remade,
      (Model.compile "ProjectModel" (slugTeams "Team" id) (Model.remoteType ⟨"Project"⟩)
        true).result = .ok model ∧
      (Model.compile "ProjectModel" (slugTeams "Group" Attribute.skipFill)
        (Model.remoteType ⟨"Project"⟩) true).result = .ok remade ∧
      model.withoutFills = remade.withoutFills) ∧
    Attribute.schemaTable "ProjectModel" (slugTeams "Team" id) =
      Attribute.schemaTable "ProjectModel" (slugTeams "Group" Attribute.skipFill) ∧
    Model.compile "ProjectModel" (slugTeams "Team" id) (Model.remoteType ⟨"Project"⟩) true =
      Model.compile "ProjectModel" (slugTeams "Team" Attribute.required)
        (Model.remoteType ⟨"Project"⟩) true := by
  obtain ⟨hfill, hschema⟩ := fill_and_schema_options_independent
  obtain ⟨htables, hmodels⟩ :=
    hfill (slugTeams "Team" id) (slugTeams "Group" Attribute.skipFill) rfl
  refine ⟨?_, htables _, hschema (slugTeams "Team" id) (slugTeams "Team" Attribute.required) rfl
    _ _ _⟩
  have hmodel : Succeeds (Model.compile "ProjectModel" (slugTeams "Team" id)
      (Model.remoteType ⟨"Project"⟩) true).result := by decide +kernel
  have hremade : Succeeds (Model.compile "ProjectModel" (slugTeams "Group" Attribute.skipFill)
      (Model.remoteType ⟨"Project"⟩) true).result := by decide +kernel
  obtain ⟨model, hmodel⟩ := hmodel
  obtain ⟨remade, hremade⟩ := hremade
  exact ⟨model, remade, hmodel, hremade, hmodels _ _ _ _ _ _ _ hmodel hremade⟩

end ProviderForge

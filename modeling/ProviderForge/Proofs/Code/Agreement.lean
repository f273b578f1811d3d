import ProviderForge.Definition.BuiltIn
import ProviderForge.Proofs.Code.Attributes
import ProviderForge.Proofs.Code.Record

namespace ProviderForge

open Code Result

inductive Model.Contains (top : Model) : Model → Prop
  | self : Contains top top
  | step {model inner : Model} (hmodel : Contains top model) (hinner : inner ∈ model.nested) :
      Contains top inner

/-- An attribute list with its schema and its model. -/
structure Layer where
  siblings : List Attribute
  table : Code
  model : Model

namespace Layer

def nestedEntries (siblings : List Attribute) (entries : List Code) : List (Attribute × Code) :=
  (siblings.zip entries).filter (·.1.kind == .setNested)

def ofEntry (nested : Attribute × Code) (model : Model) : Layer :=
  ⟨nested.1.children, Schema.nestedTable nested.2, model⟩

/-- The layers of the nested sets: the table of each stands in its entry, and its model is the
one at its place among the models below. -/
def below (layer : Layer) : List Layer :=
  List.zipWith ofEntry (nestedEntries layer.siblings (Schema.entries layer.table))
    layer.model.nested

inductive Contains (top : Layer) : Layer → Prop
  | self : Contains top top
  | step {layer inner : Layer} (hlayer : Contains top layer) (hinner : inner ∈ layer.below) :
      Contains top inner

/-- What the schema, the record and the fill operation of one layer say alike. -/
structure Agrees (layer : Layer) : Prop where
  keys : (Schema.entries layer.table).map Schema.key? =
    layer.siblings.map fun declared => some declared.name
  fields : ∃ identifiers,
    layer.siblings.mapM (fun declared => Identifier.field declared.name) = .ok identifiers ∧
    (Record.fields layer.model.declaration).map (nameBehind? "pub") =
      identifiers.map fun identifier => some identifier.text
  schemaWrappers : (Schema.entries layer.table).map Schema.wrapper? =
    layer.siblings.map fun declared => some (declared.wrapper layer.model.name)
  fieldWrappers : (Record.fields layer.model.declaration).map Record.wrapper? =
    layer.siblings.map fun declared => some (declared.wrapper layer.model.name)
  fill : ∃ fill conversions, layer.model.fill = some fill ∧
    nameBehind? "impl" fill = some layer.model.name ∧
    (layer.siblings.filter Model.isFilled).mapM
      (fun declared => declared.conversion layer.model.name "data" "self") = .ok conversions ∧
    Fill.body fill = Model.diagnosticsBinding (layer.siblings.filter Model.isFilled) ++
      conversions.flatten ++ word "diags"
  isFilledBy : ∀ declared ∈ layer.siblings, ∀ conversion,
    declared.options.customFill = none →
    declared.conversion layer.model.name "data" "self" = .ok conversion →
    declared.IsFilledBy layer.model.name conversion
  name : nameBehind? "struct" layer.model.declaration = some layer.model.name
  children : layer.model.nested.map Model.name =
    layer.siblings.filterMap (Attribute.childName? layer.model.name)

structure IsGenerated (layer : Layer) : Prop where
  table : Attribute.schemaTable layer.model.name layer.siblings = .ok layer.table
  model : ∃ sourceType,
    (Model.compile layer.model.name layer.siblings sourceType true).result = .ok layer.model

end Layer

namespace Model

structure IsCompiled (model : Model) (name : String) (siblings : List Attribute)
    (sourceType : Code) : Prop where
  name_eq : model.name = name
  identifier : Identifier.type name = .ok ⟨name⟩
  declaration : ∃ fields, siblings.mapM (Attribute.fieldDeclaration name) = .ok fields ∧
    model.declaration = recordDeclaration ⟨name⟩ fields
  fill : ∃ fill, compileFill name siblings sourceType = .ok fill ∧ model.fill = some fill
  nested : (compileNested name true siblings).result = .ok model.nested

theorem compileRecord_ok {name : String} {siblings : List Attribute} {sourceType : Code}
    {fills : Bool} {declaration : Code} {fill : Option Code}
    (hrecord : compileRecord name siblings sourceType fills = .ok (declaration, fill)) :
    Identifier.type name = .ok ⟨name⟩ ∧
      (∃ fields, siblings.mapM (Attribute.fieldDeclaration name) = .ok fields ∧
        declaration = recordDeclaration ⟨name⟩ fields) ∧
      if fills then ∃ code, compileFill name siblings sourceType = .ok code ∧ fill = some code
      else fill = none := by
  rw [compileRecord, bind_eq_ok] at hrecord
  obtain ⟨identifier, hidentifier, hrecord⟩ := hrecord
  obtain ⟨-, -, rfl⟩ := Identifier.type_eq_ok.mp hidentifier
  rw [bind_eq_ok] at hrecord
  obtain ⟨fields, hfields, hrecord⟩ := hrecord
  cases fills with
  | false =>
      obtain ⟨rfl, rfl⟩ := Prod.mk.inj (pure_eq_ok.mp hrecord)
      exact ⟨hidentifier, ⟨fields, hfields, rfl⟩, rfl⟩
  | true =>
      obtain ⟨made, hmade, hrecord⟩ := bind_eq_ok.mp hrecord
      obtain ⟨code, hcode, rfl⟩ := map_eq_ok.mp hmade
      obtain ⟨rfl, rfl⟩ := Prod.mk.inj (pure_eq_ok.mp hrecord)
      exact ⟨hidentifier, ⟨fields, hfields, rfl⟩, code, hcode, rfl⟩

theorem compile_ok {model : Model} {name : String} {siblings : List Attribute}
    {sourceType : Code} {fills : Bool} :
    (compile name siblings sourceType fills).result = .ok model ↔
      ∃ declaration fill nested,
        compileRecord name siblings sourceType fills = .ok (declaration, fill) ∧
        (compileNested name fills siblings).result = .ok nested ∧
        model = node name declaration fill nested := by
  simp only [compile, Traced.result_bind, Traced.result_report, Traced.result_ofExcept,
    Traced.result_pure, ok_bind, bind_eq_ok, Except.ok.injEq]
  constructor
  · rintro ⟨⟨declaration, fill⟩, hrecord, nested, hnested, rfl⟩
    exact ⟨declaration, fill, nested, hrecord, hnested, rfl⟩
  · rintro ⟨declaration, fill, nested, hrecord, hnested, rfl⟩
    exact ⟨(declaration, fill), hrecord, nested, hnested, rfl⟩

theorem isCompiled_of_compile {model : Model} {name : String} {siblings : List Attribute}
    {sourceType : Code} (hmodel : (compile name siblings sourceType true).result = .ok model) :
    model.IsCompiled name siblings sourceType := by
  obtain ⟨declaration, fill, nested, hrecord, hnested, rfl⟩ := compile_ok.mp hmodel
  obtain ⟨hidentifier, hfields, hfill⟩ := compileRecord_ok hrecord
  exact ⟨rfl, hidentifier, hfields, hfill, hnested⟩

/-- A nested set is compiled as any attribute list is, from the record type of its items. -/
theorem compileChild_nested {parent : String} {fills : Bool} {options : AttributeOptions}
    {children : List Attribute} {record : String} {models : List Model}
    (hmodels : (compileChild parent fills (.nested options children record)).result =
      .ok models) :
    ∃ model, models = [model] ∧ (compile (Name.nestedType parent options.name) children
      (remoteType ⟨record⟩) fills).result = .ok model := by
  simp only [compileChild, Traced.result_bind, Traced.result_report, Traced.result_ofExcept,
    Traced.result_pure, ok_bind, bind_eq_ok] at hmodels
  obtain ⟨identifier, hidentifier, parts, hparts, nested, hnested, hmodels⟩ := hmodels
  obtain ⟨-, -, rfl⟩ := Identifier.type_eq_ok.mp hidentifier
  exact ⟨_, (Except.ok.inj hmodels).symm,
    compile_ok.mpr ⟨parts.1, parts.2, nested, hparts, hnested, rfl⟩⟩

end Model

/-! Entries, models and attributes side by side. -/

namespace Layer

variable {parent : String} {siblings : List Attribute} {entries : List Code} {models : List Model}

/-- Each attribute has its entry, and each nested set a model and with it a layer of its own. -/
inductive Matches (parent : String) : List Attribute → List Code → List Model → Prop
  | nil : Matches parent [] [] []
  | plain {options : AttributeOptions} {shape : PlainShape} {entry : Code}
      {siblings : List Attribute} {entries : List Code} {models : List Model}
      (hkey : Schema.key? entry = some options.name)
      (hwrapper : Schema.wrapper? entry = some ((Attribute.plain options shape).wrapper parent))
      (hrest : Matches parent siblings entries models) :
      Matches parent (.plain options shape :: siblings) (entry :: entries) models
  | nested {options : AttributeOptions} {children : List Attribute} {record : String}
      {entry : Code} {model : Model}
      {siblings : List Attribute} {entries : List Code} {models : List Model}
      (hkey : Schema.key? entry = some options.name)
      (hwrapper : Schema.wrapper? entry =
        some ⟨.setNested, some (Name.nestedType parent options.name)⟩)
      (hname : model.name = Name.nestedType parent options.name)
      (hlayer : IsGenerated ⟨children, Schema.nestedTable entry, model⟩)
      (hrest : Matches parent siblings entries models) :
      Matches parent (.nested options children record :: siblings) (entry :: entries)
        (model :: models)

theorem matches_of_generated {members : List Code}
    (hnames : ∀ declared ∈ siblings, Name.fault? declared.name = none)
    (hmembers : Attribute.schemaMembers parent siblings = .ok members)
    (hmodels : (Model.compileNested parent true siblings).result = .ok models) :
    Matches parent siblings (Schema.entries (Schema.table members)) models := by
  induction siblings generalizing members models with
  | nil =>
      simp only [Attribute.schemaMembers, pure_eq_ok] at hmembers
      simp only [Model.compileNested, Traced.result_pure, Except.ok.injEq] at hmodels
      rw [← hmembers, ← hmodels]
      exact .nil
  | cons first rest ih =>
      obtain ⟨hname, hnames⟩ := List.forall_mem_cons.mp hnames
      simp only [Attribute.schemaMembers, bind_eq_ok, pure_eq_ok] at hmembers
      obtain ⟨value, hvalue, others, hothers, rfl⟩ := hmembers
      simp only [Model.compileNested, Traced.result_bind, Traced.result_pure,
        bind_eq_ok, Except.ok.injEq] at hmodels
      obtain ⟨own, hown, below, hbelow, rfl⟩ := hmodels
      have hrest := ih hnames hothers hbelow
      have hkey := Attribute.key?_memberContent hname value
      rw [Schema.entries_table_cons]
      cases first with
      | plain options shape =>
          simp only [Model.compileChild, Traced.result_pure, Except.ok.injEq] at hown
          rw [← hown, List.nil_append]
          exact .plain hkey (Attribute.schemaEntry_plain hvalue) hrest
      | nested options children record =>
          obtain ⟨model, rfl, hmodel⟩ := Model.compileChild_nested hown
          obtain ⟨hwrapper, htable⟩ := Attribute.schemaEntry_nested hvalue
          have hcompiled := (Model.isCompiled_of_compile hmodel).name_eq
          refine .nested hkey hwrapper hcompiled ⟨?_, Model.remoteType ⟨record⟩, ?_⟩ hrest
          · rw [hcompiled]
            exact htable
          · rw [hcompiled]
            exact hmodel

theorem nestedEntries_plain (options : AttributeOptions) (shape : PlainShape) (entry : Code) :
    nestedEntries (.plain options shape :: siblings) (entry :: entries) =
      nestedEntries siblings entries := by
  cases shape <;> rfl

theorem nestedEntries_nested (options : AttributeOptions) (children : List Attribute)
    (record : String) (entry : Code) :
    nestedEntries (.nested options children record :: siblings) (entry :: entries) =
      (.nested options children record, entry) :: nestedEntries siblings entries := rfl

namespace Matches

theorem keys (hmatches : Matches parent siblings entries models) :
    entries.map Schema.key? = siblings.map fun declared => some declared.name := by
  induction hmatches with
  | nil => rfl
  | plain hkey _ _ ih | nested hkey _ _ _ _ ih => simp [hkey, ih, Attribute.name]

theorem wrappers (hmatches : Matches parent siblings entries models) :
    entries.map Schema.wrapper? =
      siblings.map fun declared => some (declared.wrapper parent) := by
  induction hmatches with
  | nil => rfl
  | plain _ hwrapper _ ih => simp [hwrapper, ih]
  | nested _ hwrapper _ _ _ ih => simp [hwrapper, ih, Attribute.wrapper]

theorem children (hmatches : Matches parent siblings entries models) :
    models.map Model.name = siblings.filterMap (Attribute.childName? parent) := by
  induction hmatches with
  | nil => rfl
  | plain _ _ _ ih => simp [List.filterMap_cons, Attribute.childName?, ih]
  | nested _ _ hname _ _ ih => simp [Attribute.childName?, hname, ih]

theorem models_below (hmatches : Matches parent siblings entries models) :
    (List.zipWith ofEntry (nestedEntries siblings entries) models).map Layer.model = models := by
  induction hmatches with
  | nil => rfl
  | plain _ _ _ ih =>
      rw [nestedEntries_plain]
      exact ih
  | nested _ _ _ _ _ ih =>
      rw [nestedEntries_nested, List.zipWith_cons_cons, List.map_cons, ih]
      rfl

theorem generated_below (hmatches : Matches parent siblings entries models) :
    ∀ layer ∈ List.zipWith ofEntry (nestedEntries siblings entries) models,
      layer.IsGenerated := by
  induction hmatches with
  | nil => simp [nestedEntries]
  | plain _ _ _ ih =>
      rw [nestedEntries_plain]
      exact ih
  | nested _ _ _ hlayer _ ih =>
      rw [nestedEntries_nested, List.zipWith_cons_cons]
      exact List.forall_mem_cons.mpr ⟨hlayer, ih⟩

/-- The types that the entries name are those of the models, if this holds further down. -/
theorem childTypes (hmatches : Matches parent siblings entries models)
    (hbelow : ∀ entry ∈ entries, ∀ siblings model,
      IsGenerated ⟨siblings, Schema.nestedTable entry, model⟩ →
        model.typeNames = model.name :: Schema.childTypes (Schema.nestedTable entry)) :
    (entries.flatMap fun entry =>
      Schema.entryTypes entry (Schema.childTypes (Schema.nestedTable entry))) =
        Model.typeNamesOf models := by
  induction hmatches with
  | nil => rfl
  | @plain options shape entry siblings entries models _ hwrapper _ ih =>
      obtain ⟨-, hrest⟩ := List.forall_mem_cons.mp hbelow
      rw [List.flatMap_cons, ih hrest, Schema.entryTypes, hwrapper]
      rcases shape with _ | _ | _ | ⟨⟨⟩⟩ | ⟨⟨⟩⟩ | _ <;> rfl
  | @nested options children record entry model siblings entries models _ hwrapper hname hlayer _
      ih =>
      obtain ⟨hfirst, hrest⟩ := List.forall_mem_cons.mp hbelow
      rw [List.flatMap_cons, ih hrest, Schema.entryTypes, hwrapper, Model.typeNamesOf,
        hfirst children model hlayer, hname]

end Matches

namespace IsGenerated

variable {layer : Layer}

theorem isCompiled (hlayer : layer.IsGenerated) :
    ∃ sourceType, layer.model.IsCompiled layer.model.name layer.siblings sourceType := by
  obtain ⟨sourceType, hmodel⟩ := hlayer.model
  exact ⟨sourceType, Model.isCompiled_of_compile hmodel⟩

theorem isMatched (hlayer : layer.IsGenerated) :
    Matches layer.model.name layer.siblings (Schema.entries layer.table) layer.model.nested := by
  obtain ⟨sourceType, hcompiled⟩ := hlayer.isCompiled
  obtain ⟨fields, hfields, -⟩ := hcompiled.declaration
  have hnames : ∀ declared ∈ layer.siblings, Name.fault? declared.name = none := by
    intro declared hmem
    obtain ⟨field, hfield⟩ := ok_of_mapM_ok hfields declared hmem
    obtain ⟨⟨identifier, hidentifier, -⟩, -⟩ := Attribute.fieldDeclaration_reads hfield
    exact (Identifier.field_eq_ok.mp hidentifier).1
  have htable := hlayer.table
  simp only [Attribute.schemaTable, bind_eq_ok, pure_eq_ok] at htable
  obtain ⟨members, hmembers, htable⟩ := htable
  rw [← htable]
  exact matches_of_generated hnames hmembers hcompiled.nested

theorem step (hlayer : layer.IsGenerated) {inner : Layer} (hinner : inner ∈ layer.below) :
    inner.IsGenerated :=
  hlayer.isMatched.generated_below inner hinner

theorem contains (hlayer : layer.IsGenerated) {inner : Layer} (hinner : layer.Contains inner) :
    inner.IsGenerated := by
  induction hinner with
  | self => exact hlayer
  | step _ hbelow ih => exact ih.step hbelow

theorem exists_layer (hlayer : layer.IsGenerated) {model : Model}
    (hmodel : layer.model.Contains model) :
    ∃ inner, layer.Contains inner ∧ inner.model = model := by
  induction hmodel with
  | self => exact ⟨layer, .self, rfl⟩
  | step _ hnested ih =>
      obtain ⟨inner, hinner, rfl⟩ := ih
      have hbelow := (hlayer.contains hinner).isMatched.models_below
      rw [← hbelow] at hnested
      obtain ⟨lower, hlower, rfl⟩ := List.mem_map.mp hnested
      exact ⟨lower, .step hinner hlower, rfl⟩

theorem typeNames (hlayer : layer.IsGenerated) :
    layer.model.typeNames = layer.model.name :: Schema.childTypes layer.table := by
  obtain ⟨siblings, table, model⟩ := layer
  induction hsize : Code.size table using Nat.strongRecOn generalizing siblings table model with
  | ind size ih =>
      have hbelow : ∀ entry ∈ Schema.entries table, ∀ siblings model,
          IsGenerated ⟨siblings, Schema.nestedTable entry, model⟩ →
            model.typeNames = model.name :: Schema.childTypes (Schema.nestedTable entry) := by
        intro entry hmem siblings model hgenerated
        exact ih _ (hsize ▸ Schema.size_nestedTable_lt hmem) siblings _ model hgenerated rfl
      have hmatches := hlayer.isMatched.childTypes hbelow
      rw [← Schema.childTypes_eq] at hmatches
      cases model
      rw [hmatches]
      rfl

theorem agrees (hlayer : layer.IsGenerated) : layer.Agrees := by
  obtain ⟨sourceType, hcompiled⟩ := hlayer.isCompiled
  obtain ⟨fields, hfields, hdeclaration⟩ := hcompiled.declaration
  obtain ⟨fill, hfill, hmade⟩ := hcompiled.fill
  have hread : Record.fields layer.model.declaration = fields := by
    have hcommas : ∀ code ∈ fields, Lacks (Token.isMark ',') code := by
      intro code hmem
      obtain ⟨declared, -, hcode⟩ := exists_of_mapM_ok hfields code hmem
      exact (Attribute.fieldDeclaration_reads hcode).2.2
    rw [Record.fields, hdeclaration, Record.inside_recordDeclaration, pieces_terminated hcommas]
  simp only [Model.compileFill, hcompiled.identifier, ok_bind, bind_eq_ok, pure_eq_ok] at hfill
  obtain ⟨conversions, hconversions, rfl⟩ := hfill
  exact {
    keys := hlayer.isMatched.keys
    fields := by
      rw [hread]
      exact exists_mapM_of_mapM_ok hfields fun declared field hfield =>
        (Attribute.fieldDeclaration_reads hfield).1
    schemaWrappers := hlayer.isMatched.wrappers
    fieldWrappers := by
      rw [hread]
      exact map_of_mapM_ok hfields fun declared field hfield =>
        (Attribute.fieldDeclaration_reads hfield).2.1
    fill := ⟨_, conversions, hmade, Fill.nameBehind?_fillDeclaration _ _ _, hconversions,
      Fill.body_fillDeclaration _ _ _⟩
    isFilledBy := fun declared _ conversion hcustom hconversion =>
      Attribute.conversion_isFilledBy hcustom hconversion
    name := by
      rw [hdeclaration]
      exact Record.nameBehind?_recordDeclaration _ _
    children := hlayer.isMatched.children }

end IsGenerated

end Layer

/-- The schema, the records and the fill operations of an attribute tree agree on the names and on
the wrapped types of all attributes, at every model of the tree, and the schema names the types of
all models but the first. -/
theorem schema_record_and_fill_agree {parent : String} {siblings : List Attribute}
    {sourceType table : Code} {model : Model}
    (htable : Attribute.schemaTable parent siblings = .ok table)
    (hmodel : (Model.compile parent siblings sourceType true).result = .ok model) :
    (∀ layer, Layer.Contains ⟨siblings, table, model⟩ layer → layer.Agrees) ∧
      (∀ inner, model.Contains inner →
        ∃ layer, Layer.Contains ⟨siblings, table, model⟩ layer ∧ layer.model = inner) ∧
      model.typeNames = parent :: Schema.childTypes table := by
  have hname := (Model.isCompiled_of_compile hmodel).name_eq
  have htop : Layer.IsGenerated ⟨siblings, table, model⟩ :=
    ⟨by rw [hname]; exact htable, sourceType, by rw [hname]; exact hmodel⟩
  refine ⟨fun layer hlayer => (htop.contains hlayer).agrees,
    fun inner hinner => htop.exists_layer hinner, ?_⟩
  rw [htop.typeNames, hname]

/-- The pages of projects hold projects, which hold teams. -/
theorem allProjects_agree :
    ∃ table model,
      Attribute.schemaTable "AllProjectsDataSourceModel" BuiltIn.allProjects.attributes =
        .ok table ∧
      (Model.compile "AllProjectsDataSourceModel" BuiltIn.allProjects.attributes
        (brackets (Model.remoteType ⟨"Project"⟩)) true).result = .ok model ∧
      (∀ layer, Layer.Contains ⟨BuiltIn.allProjects.attributes, table, model⟩ layer →
        layer.Agrees) ∧
      Schema.childTypes table = ["AllProjectsDataSourceModelProjectsItem",
        "AllProjectsDataSourceModelProjectsItemTeamsItem"] := by
  have htable : Succeeds (Attribute.schemaTable "AllProjectsDataSourceModel"
      BuiltIn.allProjects.attributes) := by decide +kernel
  have hmodel : Succeeds (Model.compile "AllProjectsDataSourceModel"
      BuiltIn.allProjects.attributes (brackets (Model.remoteType ⟨"Project"⟩)) true).result := by
    decide +kernel
  have hnames : Model.typeNames <$> (Model.compile "AllProjectsDataSourceModel"
      BuiltIn.allProjects.attributes (brackets (Model.remoteType ⟨"Project"⟩)) true).result =
        .ok ["AllProjectsDataSourceModel", "AllProjectsDataSourceModelProjectsItem",
          "AllProjectsDataSourceModelProjectsItemTeamsItem"] := by
    decide +kernel
  obtain ⟨table, htable⟩ := htable
  obtain ⟨model, hmodel⟩ := hmodel
  obtain ⟨hlayers, -, htypes⟩ := schema_record_and_fill_agree htable hmodel
  rw [hmodel] at hnames
  have hchildren : "AllProjectsDataSourceModel" :: Schema.childTypes table = _ :=
    htypes.symm.trans (Except.ok.inj hnames)
  exact ⟨table, model, htable, hmodel, hlayers, List.tail_eq_of_cons_eq hchildren⟩

end ProviderForge

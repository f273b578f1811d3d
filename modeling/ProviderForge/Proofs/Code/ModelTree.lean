import ProviderForge.Proofs.Code.Accumulator
import ProviderForge.Proofs.Code.Agreement
import ProviderForge.Proofs.Code.Items

namespace ProviderForge

open Code Result

structure Blueprint where
  name : String
  siblings : List Attribute
  sourceType : Code

/-- What the model of a nested set is compiled from: its children, and the remote record that its
items are. -/
def Attribute.blueprint? (parent : String) : Attribute → Option Blueprint
  | plain _ _ => none
  | nested options children record =>
      some ⟨Name.nestedType parent options.name, children,
        within (word "apiclient") (word record)⟩

namespace Blueprint

def below (blueprint : Blueprint) : List Blueprint :=
  blueprint.siblings.filterMap (Attribute.blueprint? blueprint.name)

def filled (blueprint : Blueprint) : List Attribute :=
  blueprint.siblings.filter fun declared => !declared.options.skipFill

end Blueprint

namespace Code

/-- The code is an item of its own, whatever follows. -/
def IsItem (code : Code) : Prop :=
  ∀ rest, items (code ++ rest) = code :: items rest

end Code

namespace Model

/-- The fill operation of the record, which converts each filled attribute in turn. -/
structure Fills (blueprint : Blueprint) (fill : Code) : Prop where
  isItem : IsItem fill
  typeName : nameBehind? "impl" fill = some blueprint.name
  noRecord : nameBehind? "struct" fill = none
  source : fillSource? blueprint.name fill = some blueprint.sourceType
  body : ∃ binding conversions,
    blueprint.filled.mapM (fun declared => declared.conversion blueprint.name "data" "self") =
      .ok conversions ∧
    Fill.body fill = binding ++ conversions.flatten ++ word "diags" ∧
    (binding = bind (word "diags") emptyDiagnostics ∨
      binding = bindMutable "diags" emptyDiagnostics) ∧
    (hasAppend (Fill.body fill) = true → binding = bindMutable "diags" emptyDiagnostics)
  assigns : ∀ declared ∈ blueprint.filled, declared.options.customFill = none → ∀ conversion,
    declared.conversion blueprint.name "data" "self" = .ok conversion →
      declared.IsFilledBy blueprint.name conversion ∧
        (hasAppend conversion = true ↔ declared.kind = .setNested)

/-- The record has a public field for each attribute, and a fill operation where there are any. -/
structure Records (fills : Bool) (blueprint : Blueprint) (model : Model) : Prop where
  name : model.name = blueprint.name
  isItem : IsItem model.declaration
  typeName : nameBehind? "struct" model.declaration = some blueprint.name
  fields : ∃ identifiers,
    blueprint.siblings.mapM (fun declared => Identifier.field declared.name) = .ok identifiers ∧
    (Record.fields model.declaration).map (nameBehind? "pub") =
      identifiers.map fun identifier => some identifier.text
  isFilled : model.fill.isSome = fills
  filledBy : ∀ fill, model.fill = some fill → Fills blueprint fill

mutual
/-- The model records its list of attributes, and below it stands a model for each nested set. -/
inductive Mirrors (fills : Bool) : Blueprint → Model → Prop
  | node {blueprint : Blueprint} {model : Model} (own : Records fills blueprint model)
      (below : MirrorAll fills blueprint.below model.nested) : Mirrors fills blueprint model

inductive MirrorAll (fills : Bool) : List Blueprint → List Model → Prop
  | nil : MirrorAll fills [] []
  | cons {blueprint : Blueprint} {model : Model} {blueprints : List Blueprint} {models : List Model}
      (first : Mirrors fills blueprint model) (rest : MirrorAll fills blueprints models) :
      MirrorAll fills (blueprint :: blueprints) (model :: models)
end

theorem isItem_recordDeclaration (identifier : Identifier) (fields : List Code) :
    IsItem (recordDeclaration identifier fields) := fun _ => rfl

theorem isItem_fillDeclaration (identifier : Identifier) (sourceType body : Code) :
    IsItem (fillDeclaration identifier sourceType body) := fun _ => rfl

theorem fills_of_compileFill {blueprint : Blueprint} {fill : Code}
    (hfill : compileFill blueprint.name blueprint.siblings blueprint.sourceType = .ok fill) :
    Fills blueprint fill := by
  simp only [compileFill, bind_eq_ok, pure_eq_ok] at hfill
  obtain ⟨identifier, hidentifier, conversions, hconversions, rfl⟩ := hfill
  obtain ⟨-, -, rfl⟩ := Identifier.type_eq_ok.mp hidentifier
  have hsource := fillSource?_fillDeclaration ⟨blueprint.name⟩ blueprint.sourceType
    (diagnosticsBinding blueprint.filled ++ conversions.flatten ++ word "diags") []
  rw [List.append_nil] at hsource
  exact {
    isItem := isItem_fillDeclaration _ _ _
    typeName := Fill.nameBehind?_fillDeclaration _ _ _
    noRecord := nameBehind?_inherent _ _
    source := hsource
    body := ⟨_, conversions, hconversions, Fill.body_fillDeclaration _ _ _,
      diagnosticsBinding_cases _, diagnosticsBinding_of_hasAppend hconversions⟩
    assigns := by
      intro declared _ hcustom conversion hconversion
      refine ⟨Attribute.conversion_isFilledBy hcustom hconversion, ?_⟩
      have happends := Attribute.conversion_appends hcustom hconversion
      split at happends
      next hkind => exact iff_of_true happends hkind
      next hkind => exact iff_of_false (by simp [happends.hasAppend_eq]) hkind }

theorem records_of_compileRecord {blueprint : Blueprint} {fills : Bool} {declaration : Code}
    {fill : Option Code}
    (hrecord : compileRecord blueprint.name blueprint.siblings blueprint.sourceType fills =
      .ok (declaration, fill)) (nested : List Model) :
    Records fills blueprint (node blueprint.name declaration fill nested) := by
  obtain ⟨-, ⟨fields, hfields, rfl⟩, hfill⟩ := compileRecord_ok hrecord
  have hread : Record.fields (recordDeclaration ⟨blueprint.name⟩ fields) = fields := by
    have hcommas : ∀ code ∈ fields, Lacks (Token.isMark ',') code := by
      intro code hmem
      obtain ⟨declared, -, hcode⟩ := exists_of_mapM_ok hfields code hmem
      exact (Attribute.fieldDeclaration_reads hcode).2.2
    rw [Record.fields, Record.inside_recordDeclaration, pieces_terminated hcommas]
  have hidentifiers := exists_mapM_of_mapM_ok hfields fun declared field hfield =>
    (Attribute.fieldDeclaration_reads hfield).1
  have hfills : fill.isSome = fills ∧ ∀ code, fill = some code → Fills blueprint code := by
    cases fills with
    | false =>
        obtain rfl : fill = none := hfill
        exact ⟨rfl, by simp⟩
    | true =>
        obtain ⟨code, hcode, rfl⟩ := hfill
        refine ⟨rfl, ?_⟩
        rintro _ ⟨⟩
        exact fills_of_compileFill hcode
  exact {
    name := rfl
    isItem := isItem_recordDeclaration _ _
    typeName := Record.nameBehind?_recordDeclaration _ _
    fields := by simpa only [declaration, hread] using hidentifiers
    isFilled := hfills.1
    filledBy := hfills.2 }

theorem MirrorAll.append {fills : Bool} {blueprints others : List Blueprint}
    {models rest : List Model} : MirrorAll fills blueprints models → MirrorAll fills others rest →
      MirrorAll fills (blueprints ++ others) (models ++ rest)
  | .nil, hothers => hothers
  | .cons first below, hothers => .cons first (below.append hothers)

mutual
/-- A nested set is compiled into one model, whatever its options are, and any other attribute into
none. -/
theorem mirrorAll_compileChild {parent : String} {fills : Bool} : (declared : Attribute) →
    ∀ {models : List Model}, (compileChild parent fills declared).result = .ok models →
      MirrorAll fills (declared.blueprint? parent).toList models
  | .plain options shape, models, hmodels => by
      obtain rfl := Except.ok.inj hmodels
      exact .nil
  | .nested options children record, models, hmodels => by
      obtain ⟨model, rfl, hmodel⟩ := compileChild_nested hmodels
      obtain ⟨declaration, fill, nested, hrecord, hnested, rfl⟩ := compile_ok.mp hmodel
      let blueprint : Blueprint :=
        ⟨Name.nestedType parent options.name, children, remoteType ⟨record⟩⟩
      exact .cons (.node (@records_of_compileRecord blueprint _ _ _ hrecord nested)
        (mirrorAll_compileNested children hnested)) .nil

theorem mirrorAll_compileNested {parent : String} {fills : Bool} : (siblings : List Attribute) →
    ∀ {models : List Model}, (compileNested parent fills siblings).result = .ok models →
      MirrorAll fills (siblings.filterMap (Attribute.blueprint? parent)) models
  | [], models, hmodels => by
      obtain rfl := Except.ok.inj hmodels
      exact .nil
  | first :: rest, models, hmodels => by
      simp only [compileNested, Traced.result_bind, Traced.result_pure, bind_eq_ok,
        Except.ok.injEq] at hmodels
      obtain ⟨own, hown, others, hothers, rfl⟩ := hmodels
      have hfirst := mirrorAll_compileChild first hown
      have hrest := mirrorAll_compileNested rest hothers
      have hblueprints : (first :: rest).filterMap (Attribute.blueprint? parent) =
          (first.blueprint? parent).toList ++ rest.filterMap (Attribute.blueprint? parent) := by
        rw [List.filterMap_cons]
        cases first.blueprint? parent <;> rfl
      rw [hblueprints]
      exact hfirst.append hrest
end

mutual
def flatten : Model → List Model
  | node name declaration fill nested =>
      node name declaration fill nested :: flattenAll nested

def flattenAll : List Model → List Model
  | [] => []
  | model :: rest => model.flatten ++ flattenAll rest
end

theorem flatten_eq (model : Model) : model.flatten = model :: flattenAll model.nested := by
  cases model
  rfl

mutual
theorem typeNames_eq : (model : Model) → model.typeNames = model.flatten.map Model.name
  | node name declaration fill nested => by
      rw [typeNames, typeNamesOf_eq nested, flatten]
      rfl

theorem typeNamesOf_eq : (models : List Model) →
    typeNamesOf models = (flattenAll models).map Model.name
  | [] => rfl
  | model :: rest => by
      rw [typeNamesOf, typeNames_eq model, typeNamesOf_eq rest, flattenAll, List.map_append]
end

def parts (model : Model) : List Code :=
  model.declaration :: model.fill.toList

mutual
theorem code_flatten : (model : Model) → model.code = (model.flatten.flatMap parts).flatten
  | node name declaration fill nested => by
      rw [code, codeOf_flattenAll nested, flatten, List.flatMap_cons, List.flatten_append]
      cases fill <;> simp [parts, Model.declaration, Model.fill]

theorem codeOf_flattenAll : (models : List Model) →
    codeOf models = ((flattenAll models).flatMap parts).flatten
  | [] => rfl
  | model :: rest => by
      rw [codeOf, code_flatten model, codeOf_flattenAll rest, flattenAll, List.flatMap_append,
        List.flatten_append]
end

mutual
/-- Every model of the tree records a list of attributes, of which holds what holds of the first one
and is passed on to those below. -/
theorem Mirrors.exists_records {fills : Bool} {holds : Blueprint → Prop}
    (hbelow : ∀ blueprint, holds blueprint → ∀ inner ∈ blueprint.below, holds inner)
    {blueprint : Blueprint} {model : Model} :
    Mirrors fills blueprint model → holds blueprint →
      ∀ inner ∈ model.flatten, ∃ other, holds other ∧ Records fills other inner
  | .node own below, hholds => by
      rw [flatten_eq]
      refine List.forall_mem_cons.mpr ⟨⟨blueprint, hholds, own⟩, ?_⟩
      exact below.exists_records hbelow (hbelow blueprint hholds)

theorem MirrorAll.exists_records {fills : Bool} {holds : Blueprint → Prop}
    (hbelow : ∀ blueprint, holds blueprint → ∀ inner ∈ blueprint.below, holds inner)
    {blueprints : List Blueprint} {models : List Model} :
    MirrorAll fills blueprints models → (∀ blueprint ∈ blueprints, holds blueprint) →
      ∀ inner ∈ flattenAll models, ∃ other, holds other ∧ Records fills other inner
  | .nil, _ => by simp [flattenAll]
  | .cons first rest, hall => by
      obtain ⟨hfirst, hrest⟩ := List.forall_mem_cons.mp hall
      rw [flattenAll]
      exact List.forall_mem_append.mpr
        ⟨first.exists_records hbelow hfirst, rest.exists_records hbelow hrest⟩
end

theorem Mirrors.records {fills : Bool} {blueprint : Blueprint} {model : Model}
    (hmirrors : Mirrors fills blueprint model) :
    ∀ inner ∈ model.flatten, ∃ other, Records fills other inner := by
  intro inner hinner
  obtain ⟨other, -, hrecords⟩ :=
    hmirrors.exists_records (fun _ _ _ _ => trivial) trivial inner hinner
  exact ⟨other, hrecords⟩

theorem items_flatten {codes : List Code} (hitems : ∀ code ∈ codes, IsItem code) :
    items codes.flatten = codes := by
  induction codes with
  | nil => rfl
  | cons first rest ih =>
      obtain ⟨hfirst, hrest⟩ := List.forall_mem_cons.mp hitems
      rw [List.flatten_cons, hfirst, ih hrest]

theorem Records.isItem_parts {fills : Bool} {blueprint : Blueprint} {model : Model}
    (hrecords : Records fills blueprint model) : ∀ code ∈ model.parts, IsItem code := by
  refine List.forall_mem_cons.mpr ⟨hrecords.isItem, fun fill hfill => ?_⟩
  exact (hrecords.filledBy fill (Option.mem_toList.mp hfill)).isItem

theorem Records.names_parts {fills : Bool} {blueprint : Blueprint} {model : Model}
    (hrecords : Records fills blueprint model) :
    model.parts.filterMap (nameBehind? "struct") = [model.name] := by
  have hnone : model.fill.toList.filterMap (nameBehind? "struct") = [] := by
    refine List.filterMap_eq_nil_iff.mpr fun fill hfill => ?_
    exact (hrecords.filledBy fill (Option.mem_toList.mp hfill)).noRecord
  rw [parts, List.filterMap_cons_some hrecords.typeName, hnone, hrecords.name]

theorem Mirrors.items_code {fills : Bool} {blueprint : Blueprint} {model : Model}
    (hmirrors : Mirrors fills blueprint model) :
    items model.code = model.flatten.flatMap parts := by
  rw [code_flatten]
  refine items_flatten fun code hmem => ?_
  obtain ⟨inner, hinner, hcode⟩ := List.mem_flatMap.mp hmem
  obtain ⟨other, hrecords⟩ := hmirrors.records inner hinner
  exact hrecords.isItem_parts code hcode

theorem Mirrors.names_code {fills : Bool} {blueprint : Blueprint} {model : Model}
    (hmirrors : Mirrors fills blueprint model) :
    (items model.code).filterMap (nameBehind? "struct") = model.typeNames := by
  have hnames : ∀ inner ∈ model.flatten,
      inner.parts.filterMap (nameBehind? "struct") = [inner.name] := by
    intro inner hinner
    obtain ⟨other, hrecords⟩ := hmirrors.records inner hinner
    exact hrecords.names_parts
  rw [hmirrors.items_code, typeNames_eq, List.filterMap_flatMap, List.flatMap_def,
    List.map_congr_left hnames, ← List.flatMap_def, List.map_eq_flatMap]

theorem mirrors_of_compile {name : String} {siblings : List Attribute} {sourceType : Code}
    {fills : Bool} {model : Model}
    (hmodel : (compile name siblings sourceType fills).result = .ok model) :
    Mirrors fills ⟨name, siblings, sourceType⟩ model := by
  obtain ⟨declaration, fill, nested, hrecord, hnested, rfl⟩ := compile_ok.mp hmodel
  let blueprint : Blueprint := ⟨name, siblings, sourceType⟩
  exact .node (@records_of_compileRecord blueprint _ _ _ hrecord nested)
    (mirrorAll_compileNested siblings hnested)

/-- A compiled tree of models mirrors the attributes. Its code consists of the parts of the models,
parents first, and declares the records in the order of their names. -/
theorem compile_mirrors {name : String} {siblings : List Attribute} {sourceType : Code}
    {fills : Bool} {model : Model}
    (hmodel : (compile name siblings sourceType fills).result = .ok model) :
    Mirrors fills ⟨name, siblings, sourceType⟩ model ∧
      items model.code = model.flatten.flatMap parts ∧
      (items model.code).filterMap (nameBehind? "struct") = model.typeNames :=
  have hmirrors := mirrors_of_compile hmodel
  ⟨hmirrors, hmirrors.items_code, hmirrors.names_code⟩

/-- Teams are not filled and their members fill themselves, and both have their models. -/
def unfilledTeams : List Attribute :=
  [.nullable (.string "slug" ""),
    .skipFill (.setNested "teams" "" "Team"
      [.customFill "diags.append(keep(data));"
        (.setNested "members" "" "Member" [.string "name" ""])]),
    .setNested "tags" "" "Tag" [.string "key" ""]]

theorem unfilledTeams_mirrors :
    ∃ model, (compile "Project" unfilledTeams (remoteType ⟨"Project"⟩) true).result = .ok model ∧
      Mirrors true ⟨"Project", unfilledTeams, remoteType ⟨"Project"⟩⟩ model ∧
      items model.code = model.flatten.flatMap parts ∧
      (items model.code).filterMap (nameBehind? "struct") = ["Project", "ProjectTeamsItem",
        "ProjectTeamsItemMembersItem", "ProjectTagsItem"] := by
  have hnames : typeNames <$>
      (compile "Project" unfilledTeams (remoteType ⟨"Project"⟩) true).result =
        .ok ["Project", "ProjectTeamsItem", "ProjectTeamsItemMembersItem", "ProjectTagsItem"] := by
    decide +kernel
  obtain ⟨model, hmodel, htypes⟩ := map_eq_ok.mp hnames
  obtain ⟨hmirrors, hitems, hrecords⟩ := compile_mirrors hmodel
  exact ⟨model, hmodel, hmirrors, hitems, hrecords.trans htypes⟩

end Model

end ProviderForge

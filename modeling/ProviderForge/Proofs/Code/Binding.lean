import ProviderForge.Definition.BuiltIn
import ProviderForge.Proofs.Code.Agreement
import ProviderForge.Proofs.Code.ConfiguredCalls
import ProviderForge.Proofs.Code.SchemaCalls
import ProviderForge.Proofs.Definition.WellFormed

namespace ProviderForge

open Code Result

namespace Model

theorem code_eq (model : Model) :
    model.code = model.declaration ++ model.fill.getD [] ++ codeOf model.nested := by
  cases model
  rfl

theorem declaration_of_compile {model : Model} {name : String} {siblings : List Attribute}
    {sourceType : Code} {fills : Bool}
    (hmodel : (compile name siblings sourceType fills).result = .ok model) :
    ∃ fields, siblings.mapM (Attribute.fieldDeclaration name) = .ok fields ∧
      model.declaration = recordDeclaration ⟨name⟩ fields := by
  obtain ⟨declaration, fill, nested, hrecord, -, rfl⟩ := compile_ok.mp hmodel
  exact (compileRecord_ok hrecord).2.1

theorem recordFields?_code {model : Model} {name : String} {siblings : List Attribute}
    {sourceType : Code} {fills : Bool}
    (hmodel : (compile name siblings sourceType fills).result = .ok model) :
    ∃ fields, siblings.mapM (Attribute.fieldDeclaration name) = .ok fields ∧
      recordFields? name model.code = some fields := by
  obtain ⟨fields, hfields, hdeclaration⟩ := declaration_of_compile hmodel
  have hcommas : ∀ code ∈ fields, Lacks (Token.isMark ',') code := by
    intro code hmem
    obtain ⟨declared, -, hcode⟩ := exists_of_mapM_ok hfields code hmem
    exact (Attribute.fieldDeclaration_reads hcode).2.2
  refine ⟨fields, hfields, ?_⟩
  rw [code_eq, hdeclaration, List.append_assoc, recordFields?_recordDeclaration ⟨name⟩,
    pieces_terminated hcommas]

theorem fillSource?_code {model : Model} {name : String} {siblings : List Attribute}
    {sourceType : Code} (hmodel : (compile name siblings sourceType true).result = .ok model) :
    fillSource? name model.code = some sourceType := by
  have hcompiled := isCompiled_of_compile hmodel
  obtain ⟨fields, -, hdeclaration⟩ := hcompiled.declaration
  obtain ⟨fill, hfill, hmade⟩ := hcompiled.fill
  simp only [compileFill, hcompiled.identifier, ok_bind, bind_eq_ok, pure_eq_ok] at hfill
  obtain ⟨conversions, -, rfl⟩ := hfill
  rw [code_eq, hdeclaration, hmade, List.append_assoc, fillSource?_recordDeclaration]
  exact fillSource?_fillDeclaration ⟨name⟩ _ _ _

end Model

/-- Each configured call is made in the function of its own name. Every other function makes none,
but for the schema, which makes those of its fragments. -/
structure BindsCalls (calls : List ConfiguredCall) (siblings : List Attribute)
    (recordName : String) (fields : List Code) (functions : List (String × Code)) : Prop where
  made : ∀ configured ∈ calls, ∃ body, (configured.place, body) ∈ functions ∧
    configured.IsMadeIn recordName fields body
  schema : ∀ body, ("schema", body) ∈ functions →
    remoteCalls body = fragmentCalls ((Attribute.schemaFragments siblings).map some)
  others : ∀ place body, (place, body) ∈ functions → place ≠ "schema" →
    (∀ configured ∈ calls, configured.place ≠ place) → remoteCalls body = []

namespace DataSource

/-- What the fill operation of a data source reads from is what the read hands to it. -/
def FillsFromRead (declared : DataSource) (sourceType : Option Code)
    (functions : List (String × Code)) : Prop :=
  match declared.api.strategy with
  | .simple => sourceType = some (Model.remoteType ⟨declared.api.model⟩)
  | .paginate hooks => ∃ body element, ("read", body) ∈ functions ∧
      collectedType? body = some element ∧ sourceType = some (brackets element) ∧
      element = Model.remoteType ⟨hooks.itemModel.getD declared.api.model⟩

structure IsBound (declared : DataSource) (file : Code) : Prop where
  places : (traitFunctions "DataSource" (Name.dataSourceType declared.name) file).map Prod.fst =
    ["metadata", "schema", "read"]
  calls : ∃ fields, recordFields? (Name.dataSourceModel declared.name) file = some fields ∧
    BindsCalls [declared.configuredCall] declared.attributes
      (Name.dataSourceModel declared.name) fields
      (traitFunctions "DataSource" (Name.dataSourceType declared.name) file)
  fill : declared.modelFillers = true →
    declared.FillsFromRead (fillSource? (Name.dataSourceModel declared.name) file)
      (traitFunctions "DataSource" (Name.dataSourceType declared.name) file)

theorem place_configuredCall (declared : DataSource) : declared.configuredCall.place = "read" := by
  unfold configuredCall
  cases declared.api.strategy <;> rfl

theorem dataSourceType_ne_model (entity : String) :
    Name.dataSourceType entity ≠ Name.dataSourceModel entity := fun heq =>
  absurd ((String.append_right_inj _).mp heq) (by decide)

theorem fillsFromRead {declared : DataSource} {sourceCode body : Code}
    {functions : List (String × Code)} {model : Identifier}
    (hsource : sourceType declared.api = .ok sourceCode) (hbody : readBody declared = .ok body)
    (hmem : ("read", Lifecycle.load model "config" ++ body ++ Lifecycle.store) ∈ functions) :
    declared.FillsFromRead (some sourceCode) functions := by
  simp only [sourceType, elementType, bind_eq_ok, Identifier.type_eq_ok] at hsource
  obtain ⟨_, -, _, ⟨-, -, rfl⟩, hsource⟩ := hsource
  rw [FillsFromRead]
  cases hstrategy : declared.api.strategy with
  | simple =>
      rw [hstrategy] at hsource
      rw [← pure_eq_ok.mp hsource]
  | paginate hooks =>
      rw [hstrategy] at hsource
      rw [← pure_eq_ok.mp hsource]
      exact ⟨_, _, hmem, collectedType?_readBody hstrategy hbody model, rfl, rfl⟩

/-- What is found in a whole file: three functions, and the record and the fill operation of the
compiled model. -/
theorem code_ok {declared : DataSource} {file : Code} (hfile : declared.code.result = .ok file) :
    ∃ sourceCode compiled body metadata schema, sourceType declared.api = .ok sourceCode ∧
      (Model.compile (Name.dataSourceModel declared.name) declared.attributes sourceCode
        declared.modelFillers).result = .ok compiled ∧
      readBody declared = .ok body ∧ remoteCalls metadata = [] ∧
      remoteCalls schema =
        fragmentCalls ((Attribute.schemaFragments declared.attributes).map some) ∧
      traitFunctions "DataSource" (Name.dataSourceType declared.name) file =
        [("metadata", metadata), ("schema", schema),
          ("read", Lifecycle.load ⟨Name.dataSourceModel declared.name⟩ "config" ++ body ++
            Lifecycle.store)] ∧
      recordFields? (Name.dataSourceModel declared.name) file =
        recordFields? (Name.dataSourceModel declared.name) compiled.code ∧
      fillSource? (Name.dataSourceModel declared.name) file =
        fillSource? (Name.dataSourceModel declared.name) compiled.code := by
  simp only [code, model, head, Traced.result_bind, Traced.result_ofExcept, Traced.result_report,
    Traced.result_pure, ok_bind, bind_eq_ok, Identifier.type_eq_ok, pure_eq_ok,
    Except.ok.injEq] at hfile
  obtain ⟨_, ⟨_, ⟨-, -, rfl⟩, _, ⟨-, -, rfl⟩, table, htable, body, hbody, rfl⟩, compiled,
    ⟨sourceCode, hsource, hcompiled⟩, _, -, rfl⟩ := hfile
  obtain ⟨metadata, schema, hmetadata, hschema, hfunctions⟩ :=
    Lifecycle.functions_described "datasource" declared.name declared.description table
      (Lifecycle.asyncMethod "datasource" "Read" "read" "req"
        (Lifecycle.load ⟨Name.dataSourceModel declared.name⟩ "config" ++ body ++ Lifecycle.store))
  refine ⟨sourceCode, compiled, body, metadata, schema, hsource, hcompiled, hbody, hmetadata,
    hschema.trans (Attribute.remoteCalls_schemaTable htable), ?_, ?_, ?_⟩
  · rw [← List.append_assoc] at hfunctions
    exact (Lifecycle.traitFunctions_front ⟨Name.dataSourceType declared.name⟩ "BaseDataSource"
      "datasource" "DataSource" _ compiled.code).trans hfunctions
  · exact Lifecycle.recordFields?_front _ _ _ _ _ _ (dataSourceType_ne_model declared.name)
  · exact Lifecycle.fillSource?_front _ _ _ _ _ _ _

theorem isBound_code {declared : DataSource} {file : Code}
    (hnodup : (declared.attributes.map (·.name)).Nodup) (hfile : declared.code.result = .ok file) :
    declared.IsBound file := by
  obtain ⟨sourceCode, compiled, body, metadata, schema, hsource, hcompiled, hbody, hmetadata,
    hschemaCalls, hfunctions, hrecord, hfill⟩ := code_ok hfile
  obtain ⟨fields, hfields, hfound⟩ := Model.recordFields?_code hcompiled
  have hmade := readBody_made (Record.declares_of_fields hnodup hfields) hbody
    ⟨Name.dataSourceModel declared.name⟩
  have hplace := place_configuredCall declared
  constructor
  · rw [hfunctions]
    rfl
  · refine ⟨fields, hrecord.trans hfound, ?_⟩
    rw [hfunctions]
    constructor
    · exact List.forall_mem_singleton.mpr ⟨_, by simp [hplace], hmade⟩
    · intro found hmem
      obtain rfl : found = schema := by simpa using hmem
      exact hschemaCalls
    · intro place found hmem hschema hother
      rw [List.forall_mem_singleton, hplace] at hother
      simp only [List.mem_cons, Prod.mk.injEq, List.not_mem_nil, or_false] at hmem
      rcases hmem with ⟨-, rfl⟩ | ⟨hname, -⟩ | ⟨hname, -⟩
      · exact hmetadata
      · exact absurd hname hschema
      · exact absurd hname.symm hother
  · intro hfills
    rw [hfills] at hcompiled
    rw [hfill, Model.fillSource?_code hcompiled, hfunctions]
    exact fillsFromRead hsource hbody (.tail _ (.tail _ (.head _)))

end DataSource

namespace Resource

structure IsBound (declared : Resource) (file : Code) : Prop where
  places : (traitFunctions "Resource" (Name.resourceType declared.name) file).map Prod.fst =
    ["metadata", "schema", "create", "read", "update", "delete"]
  calls : ∃ fields, recordFields? (Name.resourceModel declared.name) file = some fields ∧
    BindsCalls declared.configuredCalls declared.attributes (Name.resourceModel declared.name)
      fields (traitFunctions "Resource" (Name.resourceType declared.name) file)
  fill : fillSource? (Name.resourceModel declared.name) file =
    some (Model.remoteType ⟨declared.recordName⟩)

theorem resourceType_ne_model (entity : String) :
    Name.resourceType entity ≠ Name.resourceModel entity := fun heq =>
  absurd ((String.append_right_inj _).mp heq) (by decide)

theorem place_readCall (declared : Resource) : declared.readCall.place = "read" := by
  unfold readCall
  cases declared.api.listRead <;> rfl

theorem importImplementation_ok {declared : Resource} {typeName : Identifier} {imports : Code}
    (himports : (importImplementation declared typeName).result = .ok imports) :
    imports = [] ∨ ∃ body, imports =
      Lifecycle.implementation "resource" "ResourceWithImportState" typeName body := by
  simp only [importImplementation, Traced.result_bind, Traced.result_ofExcept, bind_eq_ok]
    at himports
  obtain ⟨-, -, himports⟩ := himports
  split at himports
  next body => exact .inr ⟨_, (Except.ok.inj himports).symm⟩
  next =>
    left
    split at himports
    all_goals
      simp only [Traced.result_bind, Traced.result_report, ok_bind, Traced.result_pure,
        Except.ok.injEq] at himports
      exact himports.symm

theorem code_ok {declared : Resource} {file : Code} (hfile : declared.code.result = .ok file) :
    ∃ compiled create read update delete metadataBody schemaBody,
      (Model.compile (Name.resourceModel declared.name) declared.attributes
        (Model.remoteType ⟨declared.recordName⟩) true).result = .ok compiled ∧
      createMethod declared ⟨Name.resourceModel declared.name⟩ = .ok create ∧
      readMethod declared ⟨Name.resourceModel declared.name⟩ = .ok read ∧
      updateMethod declared ⟨Name.resourceModel declared.name⟩ = .ok update ∧
      deleteMethod declared ⟨Name.resourceModel declared.name⟩ = .ok delete ∧
      remoteCalls metadataBody = [] ∧
      remoteCalls schemaBody =
        fragmentCalls ((Attribute.schemaFragments declared.attributes).map some) ∧
      traitFunctions "Resource" (Name.resourceType declared.name) file =
        ("metadata", metadataBody) :: ("schema", schemaBody) ::
          functions (create ++ (read ++ (update ++ delete))) ∧
      recordFields? (Name.resourceModel declared.name) file =
        recordFields? (Name.resourceModel declared.name) compiled.code ∧
      fillSource? (Name.resourceModel declared.name) file =
        fillSource? (Name.resourceModel declared.name) compiled.code := by
  simp only [code, model, head, Traced.result_bind, Traced.result_ofExcept, Traced.result_report,
    Traced.result_pure, ok_bind, bind_eq_ok, Identifier.type_eq_ok, pure_eq_ok,
    Except.ok.injEq] at hfile
  obtain ⟨_, ⟨_, ⟨-, -, rfl⟩, table, htable, _, ⟨-, -, rfl⟩, create, hcreate, read, hread,
    update, hupdate, delete, hdelete, rfl⟩, imports, himports, compiled,
    ⟨_, ⟨-, -, rfl⟩, hcompiled⟩, _, -, rfl⟩ := hfile
  obtain ⟨metadataBody, schemaBody, hmetadata, hschema, hfunctions⟩ :=
    Lifecycle.functions_described "resource" declared.name declared.description table
      (create ++ (read ++ (update ++ delete)))
  refine ⟨compiled, create, read, update, delete, metadataBody, schemaBody, hcompiled, hcreate,
    hread, hupdate, hdelete, hmetadata, hschema.trans (Attribute.remoteCalls_schemaTable htable),
    ?_, ?_, ?_⟩
  · rw [List.append_assoc]
    refine (Lifecycle.traitFunctions_front ⟨Name.resourceType declared.name⟩ "BaseResource"
      "resource" "Resource" _ (imports ++ compiled.code)).trans ?_
    simpa only [List.append_assoc] using hfunctions
  · rw [List.append_assoc]
    refine (Lifecycle.recordFields?_front _ _ _ _ _ _
      (resourceType_ne_model declared.name)).trans ?_
    rcases importImplementation_ok himports with rfl | ⟨body, rfl⟩
    · rfl
    · exact Lifecycle.recordFields?_implementation ..
  · rw [List.append_assoc]
    refine (Lifecycle.fillSource?_front _ _ _ _ _ _ _).trans ?_
    rcases importImplementation_ok himports with rfl | ⟨body, rfl⟩
    · rfl
    · exact Lifecycle.fillSource?_implementation ..

theorem isBound_code {declared : Resource} {file : Code}
    (hnodup : (declared.attributes.map (·.name)).Nodup) (hfile : declared.code.result = .ok file) :
    declared.IsBound file := by
  obtain ⟨compiled, create, read, update, delete, metadataBody, schemaBody, hcompiled, hcreate,
    hread, hupdate, hdelete, hmetadata, hschemaCalls, hfunctions, hrecord, hfill⟩ := code_ok hfile
  obtain ⟨fields, hfields, hfound⟩ := Model.recordFields?_code hcompiled
  have hdeclares := Record.declares_of_fields hnodup hfields
  simp only [createMethod, bind_eq_ok, pure_eq_ok] at hcreate
  obtain ⟨call, hcall, rfl⟩ := hcreate
  obtain ⟨createBody, hcreateBody, hcreateMade⟩ := sendMethod_made hdeclares hcall "Create"
    "create" "get_create_json_request_body" ⟨Name.resourceModel declared.name⟩
  obtain ⟨readBody, hreadBody, hreadMade⟩ := readMethod_made hdeclares hread
  obtain ⟨updateBody, hupdateBody, hnoUpdate, hupdateMade⟩ := updateMethod_made hdeclares hupdate
  obtain ⟨deleteBody, hdeleteBody, hnoDelete, hdeleteMade⟩ := deleteMethod_made hdeclares hdelete
  rw [hcreateBody, hreadBody, hupdateBody, ← List.append_nil delete, hdeleteBody] at hfunctions
  have hplace := place_readCall declared
  constructor
  · rw [hfunctions]
    rfl
  · refine ⟨fields, hrecord.trans hfound, ?_⟩
    rw [hfunctions]
    constructor
    · intro configured hmem
      simp only [configuredCalls, List.mem_append, List.mem_cons, List.not_mem_nil, or_false,
        Option.mem_toList, Option.map_eq_some_iff] at hmem
      rcases hmem with ((rfl | rfl) | ⟨update, hsome, rfl⟩) | ⟨delete, hsome, rfl⟩
      · exact ⟨createBody, by simp [sendCall], hcreateMade⟩
      · exact ⟨readBody, by simp [hplace], hreadMade⟩
      · exact ⟨updateBody, by simp [sendCall], hupdateMade update hsome⟩
      · exact ⟨deleteBody, by simp [deleteCall], hdeleteMade delete hsome⟩
    · intro found hmem
      simp only [List.mem_cons, Prod.mk.injEq] at hmem
      rcases hmem with ⟨hname, -⟩ | ⟨-, rfl⟩ | hmem
      · exact absurd hname (by decide)
      · exact hschemaCalls
      · simp [functions, items] at hmem
    · intro place found hmem hschema hother
      have hcreate := hother (sendCall "create" declared.api.create) (by simp [configuredCalls])
      have hread := hother declared.readCall (by simp [configuredCalls])
      rw [hplace] at hread
      simp only [List.mem_cons, Prod.mk.injEq] at hmem
      rcases hmem with ⟨-, rfl⟩ | ⟨hname, -⟩ | ⟨hname, -⟩ | ⟨hname, -⟩ | ⟨hname, rfl⟩ |
        ⟨hname, rfl⟩ | hmem
      · exact hmetadata
      · exact absurd hname hschema
      · exact absurd hname.symm hcreate
      · exact absurd hname.symm hread
      · refine hnoUpdate (Option.eq_none_iff_forall_ne_some.mpr fun update hsome => ?_)
        exact hother (sendCall "update" update) (by simp [configuredCalls, hsome]) hname.symm
      · refine hnoDelete (Option.eq_none_iff_forall_ne_some.mpr fun delete hsome => ?_)
        exact hother (deleteCall delete) (by simp [configuredCalls, hsome]) hname.symm
      · cases hmem
  · rw [hfill, Model.fillSource?_code hcompiled]

end Resource

theorem Entity.nodup_of_check {entity : Entity} (hcheck : entity.check = .ok ()) :
    (entity.attributes.map (·.name)).Nodup :=
  (check_eq_ok.mp hcheck).distinct _ List.mem_cons_self

/-- Every configured operation of a checked entity is called once, in its own function, with the
attributes it asks for as the entity's record declares them. The record is filled from what the
read hands to it. -/
theorem operations_bound :
    (∀ (declared : DataSource) (file : Code), declared.check = .ok () →
      declared.code.result = .ok file → declared.IsBound file) ∧
    ∀ (declared : Resource) (file : Code), declared.check = .ok () →
      declared.code.result = .ok file → declared.IsBound file := by
  constructor
  · intro declared file hcheck hfile
    rw [← declared.check_entity] at hcheck
    exact DataSource.isBound_code (Entity.nodup_of_check hcheck) hfile
  · intro declared file hcheck hfile
    rw [← declared.check_entity] at hcheck
    exact Resource.isBound_code (Entity.nodup_of_check hcheck) hfile

/-- Projects are read page by page, and a key is found in the pages of its project's keys. -/
theorem allProjects_and_clientKey_bound :
    (∃ file, BuiltIn.allProjects.code.result = .ok file ∧ BuiltIn.allProjects.IsBound file) ∧
      ∃ file, BuiltIn.clientKey.code.result = .ok file ∧ BuiltIn.clientKey.IsBound file := by
  have hpages : Succeeds BuiltIn.allProjects.code.result := by decide +kernel
  have hkey : Succeeds BuiltIn.clientKey.code.result := by decide +kernel
  obtain ⟨pages, hpages⟩ := hpages
  obtain ⟨key, hkey⟩ := hkey
  exact ⟨⟨pages, hpages, operations_bound.1 _ _ (by decide +kernel) hpages⟩,
    ⟨key, hkey, operations_bound.2 _ _ (by decide +kernel) hkey⟩⟩

end ProviderForge

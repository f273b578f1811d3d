import ProviderForge.Code.DataSource
import ProviderForge.Code.Resource
import ProviderForge.Definition.BuiltIn
import ProviderForge.Proofs.Code.Attributes
import ProviderForge.Proofs.Code.References

/-!
Exactly which checked entities have code. The checks leave nothing else to go wrong than names
that the remote client dictates and fragments that are spliced as they are.
-/

namespace ProviderForge

open Code Result Attribute ClientCall

/-- What the generated schema and models ask of an attribute list. -/
structure Attribute.AreGeneratable (siblings : List Attribute) (fills : Bool) : Prop where
  fragments : ∀ inner ∈ everywhere siblings, inner.FragmentsLex
  records : ∀ inner ∈ everywhere siblings, inner.NamesRecord
  fillable : fills = true → ∀ inner ∈ everywhere siblings, inner.IsFillable

def HooksLex (hooks : List (Option String)) : Prop :=
  ∀ hook ∈ hooks, ∀ fragment ∈ hook, Lexes fragment

structure DataSource.IsGeneratable (declared : DataSource) : Prop where
  typeName : Succeeds (Identifier.type (Name.dataSourceType declared.name))
  attributes : AreGeneratable declared.attributes declared.modelFillers
  method : Succeeds (Identifier.method declared.api.readMethod)
  record : Succeeds (Identifier.type declared.api.model)
  pages : ∀ hooks, declared.api.strategy = .paginate hooks →
    Succeeds (Identifier.parameters declared.api.readMethod) ∧
      (∀ itemModel ∈ hooks.itemModel, Succeeds (Identifier.type itemModel)) ∧
      HooksLex [hooks.initLoop, hooks.preIterate, hooks.postIterate]

def Resource.PagesGeneratable (declared : Resource) : Prop :=
  ∀ options ∈ declared.api.listRead,
    Succeeds (Identifier.parameters declared.api.read.method) ∧
      Succeeds (Identifier.field options.hasMoreField) ∧
      Succeeds (Identifier.field options.cursorField) ∧
      HooksLex [options.initLoop, options.preIterate, options.postIterate]

structure Resource.IsGeneratable (declared : Resource) : Prop where
  typeName : Succeeds (Identifier.type (Name.resourceType declared.name))
  attributes : AreGeneratable declared.attributes true
  methods : ∀ request ∈ declared.requests, Succeeds (Identifier.method request.2.method)
  record : Succeeds (Identifier.type (recordName declared))
  pages : PagesGeneratable declared

theorem ClientCall.arguments_ok {entity context : String} {siblings : List Attribute}
    {requested : List String} (husable : AreUsable siblings)
    (hcheck : checkRequest entity context siblings requested = .ok ()) :
    Succeeds (arguments entity context siblings requested "data") := by
  have hnames : ∀ declared ∈ siblings, Name.fault? declared.name = none :=
    fun _ hmem => husable.name hmem
  have horigin : IsOrigin "data" := .inr (by decide)
  rw [checkRequest_eq hnames horigin, map_eq_ok] at hcheck
  obtain ⟨codes, hcodes, -⟩ := hcheck
  exact ⟨codes, hcodes⟩

theorem decides_hooks (initContext preContext postContext : String)
    (initLoop preIterate postIterate : Option String) (finish : Code → Code → Code → α) :
    Decides (do
        let initCode ← ofFragment? initContext initLoop
        let preCode ← ofFragment? preContext preIterate
        let postCode ← ofFragment? postContext postIterate
        return finish initCode preCode postCode)
      (HooksLex [initLoop, preIterate, postIterate]) := by
  have hall := (decides_ofFragment? initContext initLoop).bind fun initCode _ =>
    (decides_ofFragment? preContext preIterate).bind fun preCode _ =>
      (decides_ofFragment? postContext postIterate).map fun postCode =>
        finish initCode preCode postCode
  exact hall.congr (by simp [HooksLex])

namespace DataSource

theorem type_dataSourceModel {entity : String}
    (htype : Succeeds (Identifier.type (Name.dataSourceType entity))) :
    Identifier.type (Name.dataSourceModel entity) = .ok ⟨Name.dataSourceModel entity⟩ := by
  obtain ⟨identifier, hidentifier⟩ := htype
  have hmodel : Name.dataSourceModel entity = Name.dataSourceType entity ++ "Model" := by
    rw [Name.dataSourceModel, Name.dataSourceType, String.append_assoc]
    rfl
  rw [hmodel]
  exact Identifier.type_model (Identifier.isWord_of_type hidentifier)

theorem decides_sourceType (api : DataSourceApi) :
    Decides (sourceType api)
      (Succeeds (Identifier.type api.model) ∧ Succeeds (Identifier.type (elementType api))) := by
  unfold sourceType
  cases api.strategy with
  | simple =>
      exact (Identifier.decides_type api.model).bind fun _ _ =>
        (Identifier.decides_type (elementType api)).map Model.remoteType
  | paginate hooks =>
      exact (Identifier.decides_type api.model).bind fun _ _ =>
        (Identifier.decides_type (elementType api)).map fun element =>
          brackets (Model.remoteType element)

/-- What the read asks for. The element type is asked for here and with the models. -/
theorem decides_readBody {declared : DataSource} (husable : AreUsable declared.attributes)
    (hcheck : checkRequest declared.name "read request" declared.attributes
      declared.api.readArguments = .ok ()) :
    Decides (readBody declared)
      (Succeeds (Identifier.method declared.api.readMethod) ∧
        ∀ hooks, declared.api.strategy = .paginate hooks →
          Succeeds (Identifier.type (elementType declared.api)) ∧
            Succeeds (Identifier.parameters declared.api.readMethod) ∧
            HooksLex [hooks.initLoop, hooks.preIterate, hooks.postIterate]) := by
  obtain ⟨arguments, harguments⟩ := ClientCall.arguments_ok husable hcheck
  unfold readBody
  refine (Identifier.decides_field _).bind fun method _ => ?_
  rw [harguments, ok_bind]
  cases hstrategy : declared.api.strategy with
  | simple => exact (Decides.of_ok rfl).congr (by simp)
  | paginate hooks =>
      have hpages := (Identifier.decides_type (elementType declared.api)).bind fun element _ =>
        (Identifier.decides_type (Name.upperCamel declared.api.readMethod ++ "Params")).bind
          fun parameters _ => decides_hooks "read_init_loop" "read_pre_iterate"
            "read_post_iterate" hooks.initLoop hooks.preIterate hooks.postIterate
            (paginatedRead method element parameters arguments)
      exact hpages.congr (by simp [Identifier.parameters])

theorem decides_head {declared : DataSource} (hcheck : declared.check = .ok ()) :
    Decides (head declared)
      (Succeeds (Identifier.type (Name.dataSourceType declared.name)) ∧
        (∀ inner ∈ everywhere declared.attributes, inner.FragmentsLex) ∧
        Succeeds (Identifier.method declared.api.readMethod) ∧
        ∀ hooks, declared.api.strategy = .paginate hooks →
          Succeeds (Identifier.type (elementType declared.api)) ∧
            Succeeds (Identifier.parameters declared.api.readMethod) ∧
            HooksLex [hooks.initLoop, hooks.preIterate, hooks.postIterate]) := by
  obtain ⟨-, husable, hrequest⟩ := check_ok hcheck
  unfold head
  refine (Identifier.decides_type _).bind fun typeName htype => ?_
  have hmodel := type_dataSourceModel ⟨typeName, htype⟩
  dsimp only
  rw [hmodel, ok_bind]
  exact (decides_schemaTable (Identifier.isWord_of_type hmodel) husable).bind fun table _ =>
    (decides_readBody husable hrequest).bind_pure

theorem decides_model {declared : DataSource} (hcheck : declared.check = .ok ())
    (htype : Succeeds (Identifier.type (Name.dataSourceType declared.name))) :
    Decides (model declared).result
      ((Succeeds (Identifier.type declared.api.model) ∧
          Succeeds (Identifier.type (elementType declared.api))) ∧
        (∀ inner ∈ everywhere declared.attributes, inner.NamesRecord) ∧
        (declared.modelFillers = true →
          ∀ inner ∈ everywhere declared.attributes, inner.IsFillable)) := by
  obtain ⟨-, husable, -⟩ := check_ok hcheck
  unfold model
  rw [Traced.result_bind, Traced.result_ofExcept]
  exact (decides_sourceType declared.api).bind fun sourceType _ =>
    Model.decides_compile ⟨_, type_dataSourceModel htype⟩ husable sourceType
      declared.modelFillers

theorem type_elementType_iff {api : DataSourceApi} (hmodel : Succeeds (Identifier.type api.model)) :
    Succeeds (Identifier.type (elementType api)) ↔
      ∀ hooks, api.strategy = .paginate hooks →
        ∀ itemModel ∈ hooks.itemModel, Succeeds (Identifier.type itemModel) := by
  unfold elementType
  cases api.strategy with
  | simple => simpa using hmodel
  | paginate hooks =>
      cases hitem : hooks.itemModel with
      | none => simpa [hitem] using hmodel
      | some itemModel => simp [hitem]

theorem decides_code {declared : DataSource} (hcheck : declared.check = .ok ()) :
    Decides declared.code.result declared.IsGeneratable := by
  have hhead := decides_head hcheck
  unfold code
  simp only [Traced.result_bind, Traced.result_ofExcept, Traced.result_report, ok_bind,
    Model.reportRepetitions, Traced.result_reportAll, Traced.result_pure]
  refine (hhead.bind fun head hok =>
    (decides_model hcheck (hhead.succeeds_iff.mp ⟨head, hok⟩).1).bind_pure).congr ?_
  constructor
  · rintro ⟨⟨htype, hfragments, hmethod, hpages⟩, ⟨hmodel, helement⟩, hrecords, hfillable⟩
    refine ⟨htype, ⟨hfragments, hrecords, hfillable⟩, hmethod, hmodel, ?_⟩
    intro hooks hstrategy
    exact ⟨(hpages hooks hstrategy).2.1,
      (type_elementType_iff hmodel).mp helement hooks hstrategy, (hpages hooks hstrategy).2.2⟩
  · rintro ⟨htype, ⟨hfragments, hrecords, hfillable⟩, hmethod, hmodel, hpages⟩
    have helement := (type_elementType_iff hmodel).mpr fun hooks hstrategy =>
      (hpages hooks hstrategy).2.1
    refine ⟨⟨htype, hfragments, hmethod, ?_⟩, ⟨hmodel, helement⟩, hrecords, hfillable⟩
    intro hooks hstrategy
    exact ⟨helement, (hpages hooks hstrategy).1, (hpages hooks hstrategy).2.2⟩

end DataSource

namespace Resource

theorem type_resourceModel {entity : String}
    (htype : Succeeds (Identifier.type (Name.resourceType entity))) :
    Identifier.type (Name.resourceModel entity) = .ok ⟨Name.resourceModel entity⟩ := by
  obtain ⟨identifier, hidentifier⟩ := htype
  have hmodel : Name.resourceModel entity = Name.resourceType entity ++ "Model" := by
    rw [Name.resourceModel, Name.resourceType, String.append_assoc]
    rfl
  rw [hmodel]
  exact Identifier.type_model (Identifier.isWord_of_type hidentifier)

theorem decides_operationCall {declared : Resource} (husable : AreUsable declared.attributes)
    {operation : Operation} {context : String}
    (hcheck : checkRequest declared.name context declared.attributes operation.arguments = .ok ())
    (trailing : Code) :
    Decides (operationCall declared operation context trailing)
      (Succeeds (Identifier.method operation.method)) := by
  obtain ⟨arguments, harguments⟩ := ClientCall.arguments_ok husable hcheck
  unfold operationCall
  simp only [harguments, ok_bind]
  exact (Identifier.decides_field _).bind_pure

def RequestsChecked (declared : Resource) : Prop :=
  ∀ request ∈ declared.requests, checkRequest declared.name request.1 declared.attributes
    request.2.arguments = .ok ()

section Methods

variable {declared : Resource} (husable : AreUsable declared.attributes)
  (hrequests : RequestsChecked declared) (model : Identifier)

include husable hrequests

theorem decides_createMethod :
    Decides (createMethod declared model)
      (Succeeds (Identifier.method declared.api.create.method)) :=
  (decides_operationCall husable
    (hrequests ("create request", declared.api.create) (by simp [requests])) _).bind_pure

theorem decides_readMethod :
    Decides (readMethod declared model)
      (Succeeds (Identifier.method declared.api.read.method) ∧ PagesGeneratable declared) := by
  have hcheck := hrequests ("read request", declared.api.read) (by simp [requests])
  unfold readMethod PagesGeneratable
  cases declared.api.listRead with
  | none =>
      simp only [pure_bind]
      exact (decides_operationCall husable hcheck []).bind_pure.congr (by simp)
  | some options =>
      have hparts : Decides (listParts declared options)
          (Succeeds (Identifier.parameters declared.api.read.method) ∧
            Succeeds (Identifier.method declared.api.read.method) ∧
            Succeeds (Identifier.field options.hasMoreField) ∧
            Succeeds (Identifier.field options.cursorField) ∧
            HooksLex [options.initLoop, options.preIterate, options.postIterate]) :=
        (Identifier.decides_type _).bind fun parameters _ =>
          (decides_operationCall husable hcheck _).bind fun call _ =>
            (Identifier.decides_field options.hasMoreField).bind fun hasMore _ =>
              (Identifier.decides_field options.cursorField).bind fun cursor _ =>
                decides_hooks "paginated read init_loop" "paginated read pre_iterate"
                  "paginated read post_iterate" options.initLoop options.preIterate
                  options.postIterate (ListParts.mk parameters call hasMore cursor)
      refine (hparts.map (listedRead options)).bind_pure.congr ?_
      rw [and_left_comm]
      simp

theorem decides_updateMethod :
    Decides (updateMethod declared model)
      (∀ update ∈ declared.api.update, Succeeds (Identifier.method update.method)) := by
  unfold updateMethod
  cases hupdate : declared.api.update with
  | none => exact (Decides.of_ok rfl).congr (by simp)
  | some update =>
      have hcall := decides_operationCall husable
        (hrequests ("update request", update) (by simp [requests, hupdate]))
      exact (hcall _).bind_pure.congr (by simp)

theorem decides_deleteMethod :
    Decides (deleteMethod declared model)
      (∀ delete ∈ declared.api.delete, Succeeds (Identifier.method delete.method)) := by
  unfold deleteMethod
  cases hdelete : declared.api.delete with
  | none => exact (Decides.of_ok rfl).congr (by simp)
  | some delete =>
      have hcall := decides_operationCall husable
        (hrequests ("delete request", delete) (by simp [requests, hdelete]))
      exact (hcall _).bind_pure.congr (by simp)

end Methods

theorem methods_iff {declared : Resource} :
    (∀ request ∈ declared.requests, Succeeds (Identifier.method request.2.method)) ↔
      Succeeds (Identifier.method declared.api.create.method) ∧
        Succeeds (Identifier.method declared.api.read.method) ∧
        (∀ update ∈ declared.api.update, Succeeds (Identifier.method update.method)) ∧
        ∀ delete ∈ declared.api.delete, Succeeds (Identifier.method delete.method) := by
  simp only [requests]
  cases declared.api.update <;> cases declared.api.delete <;> simp

theorem decides_head {declared : Resource} (hcheck : declared.check = .ok ()) :
    Decides (head declared)
      (Succeeds (Identifier.type (Name.resourceType declared.name)) ∧
        (∀ inner ∈ everywhere declared.attributes, inner.FragmentsLex) ∧
        (∀ request ∈ declared.requests, Succeeds (Identifier.method request.2.method)) ∧
        PagesGeneratable declared) := by
  obtain ⟨-, husable, hrequests, -⟩ := check_ok hcheck
  rw [methods_iff]
  unfold head
  refine (Identifier.decides_type _).bind fun typeName htype => ?_
  have hmodel := type_resourceModel ⟨typeName, htype⟩
  refine (decides_schemaTable (Identifier.isWord_of_type hmodel) husable).bind fun table _ => ?_
  rw [hmodel, ok_bind]
  refine ((decides_createMethod husable hrequests _).bind fun create _ =>
    (decides_readMethod husable hrequests _).bind fun read _ =>
      (decides_updateMethod husable hrequests _).bind fun update _ =>
        (decides_deleteMethod husable hrequests _).bind_pure).congr ?_
  constructor
  · rintro ⟨hcreate, ⟨hread, hpages⟩, hupdate, hdelete⟩
    exact ⟨⟨hcreate, hread, hupdate, hdelete⟩, hpages⟩
  · rintro ⟨⟨hcreate, hread, hupdate, hdelete⟩, hpages⟩
    exact ⟨hcreate, ⟨hread, hpages⟩, hupdate, hdelete⟩

theorem decides_importImplementation {declared : Resource} (hcheck : declared.check = .ok ())
    (typeName : Identifier) : Decides (importImplementation declared typeName).result True := by
  obtain ⟨-, -, -, himports⟩ := check_ok hcheck
  have hchecked : checkImports declared = .ok () := by
    refine forM_eq_ok.mpr fun requested hmem => ?_
    obtain ⟨found, hlookup⟩ := himports requested hmem
    rw [hlookup]
  unfold importImplementation
  rw [Traced.result_bind, Traced.result_ofExcept, hchecked, ok_bind]
  cases importBody? declared.importAttributes with
  | some body => exact .of_ok rfl
  | none =>
      dsimp only
      split <;> exact .of_ok rfl

theorem decides_model {declared : Resource} (hcheck : declared.check = .ok ())
    (htype : Succeeds (Identifier.type (Name.resourceType declared.name))) :
    Decides (model declared).result
      (Succeeds (Identifier.type (recordName declared)) ∧
        (∀ inner ∈ everywhere declared.attributes, inner.NamesRecord) ∧
        (true = true → ∀ inner ∈ everywhere declared.attributes, inner.IsFillable)) := by
  obtain ⟨-, husable, -⟩ := check_ok hcheck
  unfold model
  rw [Traced.result_bind, Traced.result_ofExcept]
  exact (Identifier.decides_type _).bind fun record _ =>
    Model.decides_compile ⟨_, type_resourceModel htype⟩ husable (Model.remoteType record) true

theorem decides_code {declared : Resource} (hcheck : declared.check = .ok ()) :
    Decides declared.code.result declared.IsGeneratable := by
  have hhead := decides_head hcheck
  unfold code
  simp only [Traced.result_bind, Traced.result_ofExcept, Traced.result_report, ok_bind,
    Model.reportRepetitions, Traced.result_reportAll, Traced.result_pure]
  refine (hhead.bind fun head hok =>
    (decides_importImplementation hcheck head.1).bind fun imports _ =>
      (decides_model hcheck (hhead.succeeds_iff.mp ⟨head, hok⟩).1).bind_pure).congr ?_
  constructor
  · rintro ⟨⟨htype, hfragments, hmethods, hpages⟩, -, hrecord, hrecords, hfillable⟩
    exact ⟨htype, ⟨hfragments, hrecords, hfillable⟩, hmethods, hrecord, hpages⟩
  · rintro ⟨htype, ⟨hfragments, hrecords, hfillable⟩, hmethods, hrecord, hpages⟩
    exact ⟨⟨htype, hfragments, hmethods, hpages⟩, trivial, hrecord, hrecords, hfillable⟩

end Resource

/-- A checked entity has code exactly if it is generatable, and a name or a fragment is to blame
if it has none. -/
theorem checked_generates_iff :
    (∀ declared : DataSource, declared.check = .ok () →
      ((∃ code, declared.code.result = .ok code) ↔ declared.IsGeneratable) ∧
        ∀ failure, declared.code.result = .error failure → failure.IsTextual) ∧
    (∀ declared : Resource, declared.check = .ok () →
      ((∃ code, declared.code.result = .ok code) ↔ declared.IsGeneratable) ∧
        ∀ failure, declared.code.result = .error failure → failure.IsTextual) := by
  refine ⟨fun declared hcheck => ?_, fun declared hcheck => ?_⟩
  · have hdecides := DataSource.decides_code hcheck
    exact ⟨hdecides.succeeds_iff, hdecides.isTextual⟩
  · have hdecides := Resource.decides_code hcheck
    exact ⟨hdecides.succeeds_iff, hdecides.isTextual⟩

/-- The pages of a built-in data source, and the listed keys of a built-in resource. -/
theorem allProjects_and_clientKey_generate_iff :
    (BuiltIn.allProjects.check = .ok () ∧ BuiltIn.clientKey.check = .ok ()) ∧
      ((∃ code, BuiltIn.allProjects.code.result = .ok code) ↔
        BuiltIn.allProjects.IsGeneratable) ∧
      ((∃ code, BuiltIn.clientKey.code.result = .ok code) ↔ BuiltIn.clientKey.IsGeneratable) := by
  have hpages : BuiltIn.allProjects.check = .ok () := by decide +kernel
  have hkeys : BuiltIn.clientKey.check = .ok () := by decide +kernel
  exact ⟨⟨hpages, hkeys⟩, (checked_generates_iff.1 _ hpages).1,
    (checked_generates_iff.2 _ hkeys).1⟩

end ProviderForge

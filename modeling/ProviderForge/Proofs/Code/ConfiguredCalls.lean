import ProviderForge.Proofs.Code.Items
import ProviderForge.Proofs.Code.Requests

namespace ProviderForge

open Code Result

theorem Attribute.filter_name {siblings : List Attribute}
    (hnodup : (siblings.map (·.name)).Nodup) {declared : Attribute} (hmem : declared ∈ siblings) :
    siblings.filter (·.name == declared.name) = [declared] := by
  induction siblings with
  | nil => simp at hmem
  | cons first rest ih =>
      obtain ⟨hfresh, hrest⟩ := List.nodup_cons.mp hnodup
      rcases List.mem_cons.mp hmem with rfl | hmem
      · have hothers : ∀ other ∈ rest, other.name ≠ declared.name := fun other hother heq =>
          hfresh (List.mem_map.mpr ⟨other, hother, heq⟩)
        simpa using hothers
      · have hne : first.name ≠ declared.name := fun heq =>
          hfresh (List.mem_map.mpr ⟨declared, hmem, heq.symm⟩)
        simpa [hne] using ih hrest hmem

namespace Record

def wrappers (name : String) (fields : List Code) : List (Option Wrapper) :=
  (fields.filter fun field => nameBehind? "pub" field == some name).map wrapper?

def Declares (fields : List Code) (siblings : List Attribute) : Prop :=
  ∀ declared ∈ siblings, declared.kind.isPrimitive = true →
    wrappers (Name.fieldText declared.name) fields = [some ⟨declared.kind, none⟩]

theorem wrappers_of_fields {parent : String} {siblings : List Attribute} {fields : List Code}
    (hnodup : (siblings.map (·.name)).Nodup)
    (hfields : siblings.mapM (Attribute.fieldDeclaration parent) = .ok fields)
    {declared : Attribute} (hmem : declared ∈ siblings) :
    wrappers (Name.fieldText declared.name) fields = [some (declared.wrapper parent)] := by
  have hnames : ∀ other ∈ siblings, Name.fault? other.name = none := by
    intro other hother
    obtain ⟨field, hfield⟩ := ok_of_mapM_ok hfields other hother
    obtain ⟨⟨identifier, hidentifier, -⟩, -⟩ := Attribute.fieldDeclaration_reads hfield
    exact (Identifier.field_eq_ok.mp hidentifier).1
  have hread : fields.map (fun field => (nameBehind? "pub" field, wrapper? field)) =
      siblings.map fun other =>
        (some (Name.fieldText other.name), some (other.wrapper parent)) := by
    refine map_of_mapM_ok hfields fun other field hfield => ?_
    obtain ⟨⟨identifier, hidentifier, hname⟩, hwrapper, -⟩ :=
      Attribute.fieldDeclaration_reads hfield
    rw [hname, hwrapper, (Identifier.field_eq_ok.mp hidentifier).2]
    rfl
  have hsame : siblings.filter (fun other =>
      some (Name.fieldText other.name) == some (Name.fieldText declared.name)) =
        siblings.filter (·.name == declared.name) := by
    refine List.filter_congr fun other hother => ?_
    have hiff : Name.fieldText other.name = Name.fieldText declared.name ↔
        other.name = declared.name :=
      ⟨Name.fieldText_inj (hnames other hother) (hnames declared hmem), congrArg _⟩
    rw [Bool.eq_iff_iff]
    simpa using hiff
  calc wrappers (Name.fieldText declared.name) fields
      = ((fields.map fun field => (nameBehind? "pub" field, wrapper? field)).filter
          (·.1 == some (Name.fieldText declared.name))).map (·.2) := by
        simp [wrappers, List.filter_map, Function.comp_def]
    _ = (siblings.filter fun other =>
          some (Name.fieldText other.name) == some (Name.fieldText declared.name)).map
            fun other => some (other.wrapper parent) := by
        rw [hread]
        simp only [List.filter_map, List.map_map, Function.comp_def]
    _ = [some (declared.wrapper parent)] := by
        rw [hsame, Attribute.filter_name hnodup hmem, List.map_singleton]

theorem declares_of_fields {parent : String} {siblings : List Attribute} {fields : List Code}
    (hnodup : (siblings.map (·.name)).Nodup)
    (hfields : siblings.mapM (Attribute.fieldDeclaration parent) = .ok fields) :
    Declares fields siblings := by
  intro declared hmem hprimitive
  rw [wrappers_of_fields hnodup hfields hmem]
  rcases declared with ⟨options, _ | _ | _ | ⟨⟨⟩⟩ | ⟨⟨⟩⟩ | _⟩ | _
  all_goals first | rfl | cases hprimitive

end Record

/-- A call of the remote client as a definition configures it. -/
structure ConfiguredCall where
  /-- The method of the lifecycle that makes it. -/
  place : String
  operation : Operation
  /-- What is passed on behind the requested attributes. -/
  trailing : List Code := []
  /-- What the model is filled from when the call has succeeded. -/
  filled : Option Code := some (word "body")
  /-- Code that the definition splices in ahead of the call, and behind it. -/
  ahead : List (Option String) := []
  behind : List (Option String) := []

def DataSource.configuredCall (declared : DataSource) : ConfiguredCall :=
  let operation : Operation := ⟨declared.api.readMethod, declared.api.readArguments⟩
  match declared.api.strategy with
  | .simple => { place := "read", operation }
  | .paginate hooks =>
      { place := "read", operation
        trailing := [reference (word "params")]
        filled := some (reference (word "model_instances"))
        ahead := [hooks.initLoop, hooks.preIterate], behind := [hooks.postIterate] }

namespace Resource

def sendCall (place : String) (operation : Operation) : ConfiguredCall :=
  { place, operation, trailing := [reference (word "request_body")] }

def readCall (declared : Resource) : ConfiguredCall :=
  match declared.api.listRead with
  | none => { place := "read", operation := declared.api.read }
  | some options =>
      { place := "read", operation := declared.api.read
        trailing := [reference (word "params")]
        filled := some (reference (word "response_data"))
        ahead := [options.initLoop, options.preIterate], behind := [options.postIterate] }

def deleteCall (operation : Operation) : ConfiguredCall :=
  { place := "delete", operation, filled := none }

def configuredCalls (declared : Resource) : List ConfiguredCall :=
  [sendCall "create" declared.api.create, declared.readCall] ++
    (declared.api.update.map (sendCall "update")).toList ++
    (declared.api.delete.map deleteCall).toList

end Resource

namespace Code

/-- A call of the operation's method. It passes on the requested attributes in their order, then
what the generator adds, and it reads them as the fields are declared. -/
structure RemoteCall.Carries (call : RemoteCall) (configured : ConfiguredCall)
    (fields : List Code) : Prop where
  method : call.method = Name.fieldText (Name.snake configured.operation.method)
  arguments : ∃ leading, call.arguments = leading ++ configured.trailing ∧
    leading.map (fun argument => (Access.read? argument).map Access.field) =
      configured.operation.arguments.map fun name => some (Name.fieldText name)
  wrappers : ∀ argument ∈ call.arguments, ∀ access, Access.read? argument = some access →
    Record.wrappers access.field fields = [some ⟨access.kind, none⟩]

end Code

/-- The body loads and fills a record of this name, and its one call besides those of fragments
carries what is configured. -/
structure ConfiguredCall.IsMadeIn (configured : ConfiguredCall) (recordName : String)
    (fields : List Code) (body : Code) : Prop where
  model : modelType? body = some recordName
  filled : filledFrom body = configured.filled
  call : ∃ call, remoteCalls body =
      fragmentCalls configured.ahead ++ call :: fragmentCalls configured.behind ∧
    call.Carries configured fields

theorem ConfiguredCall.carries {configured : ConfiguredCall} {entity context : String}
    {siblings : List Attribute} {fields arguments passed : List Code} {method : Identifier}
    (hfields : Record.Declares fields siblings)
    (hmethod : Identifier.method configured.operation.method = .ok method)
    (harguments : ClientCall.arguments entity context siblings configured.operation.arguments
      "data" = .ok arguments)
    (hpassed : passed = arguments ++ configured.trailing)
    (htrailing : ∀ argument ∈ configured.trailing, Access.read? argument = none) :
    (RemoteCall.mk method.text passed).Carries configured fields where
  method := Identifier.method_text hmethod
  arguments := ⟨arguments, hpassed, ClientCall.fields_of_arguments harguments⟩
  wrappers := by
    intro argument hmem access haccess
    subst hpassed
    rcases List.mem_append.mp hmem with hmem | hmem
    · obtain ⟨declared, hdeclared, hextraction⟩ :=
        ClientCall.exists_of_arguments harguments argument hmem
      obtain ⟨-, accessor, haccessor, rfl⟩ := Attribute.code_of_extraction hextraction
      rw [Access.read?_code, Attribute.kind?_of_extractor? haccessor] at haccess
      obtain rfl := Option.some.inj haccess
      refine hfields declared hdeclared ?_
      revert haccessor
      cases declared.kind <;> simp [Attribute.extractor?, AttributeKind.isPrimitive]
    · rw [htrailing argument hmem] at haccess
      cases haccess

/-- An entity describes itself without a call of its own; fragments in its schema may make some. -/
theorem Lifecycle.functions_described (role entity description : String) (table rest : Code) :
    ∃ metadataBody schemaBody, remoteCalls metadataBody = [] ∧
      remoteCalls schemaBody = remoteCalls table ∧
      functions (metadata role entity ++ (schema role description table ++ rest)) =
        ("metadata", metadataBody) :: ("schema", schemaBody) :: functions rest := by
  have hdescription : Adds (entry "markdown_description" (ownedText description)) [] :=
    fun _ => rfl
  have hdefaults : Adds remainingDefaults [] := fun _ => rfl
  have hschema := (hdescription.append (.entry "attributes" table)).append hdefaults
  refine ⟨_, _, rfl, ?_, rfl⟩
  refine (congrArg (· ++ []) hschema.remoteCalls_eq).trans ?_
  simp

namespace DataSource

theorem readBody_made {declared : DataSource} {fields : List Code} {body : Code}
    (hfields : Record.Declares fields declared.attributes) (hbody : readBody declared = .ok body)
    (model : Identifier) :
    declared.configuredCall.IsMadeIn model.text fields
      (Lifecycle.load model "config" ++ body ++ Lifecycle.store) := by
  unfold configuredCall
  simp only [readBody, bind_eq_ok] at hbody
  obtain ⟨method, hmethod, arguments, harguments, hbody⟩ := hbody
  have haccesses := ClientCall.areAccesses harguments
  cases hstrategy : declared.api.strategy with
  | simple =>
      simp only [hstrategy, pure_eq_ok] at hbody
      subst hbody
      constructor
      · rfl
      · rw [simpleRead, ← List.append_assoc, List.append_assoc]
        exact Lifecycle.filledFrom_fillFrom rfl _
      · exact ⟨_, remoteCalls_simpleRead haccesses model,
          ConfiguredCall.carries hfields hmethod harguments (List.append_nil _).symm (by simp)⟩
  | paginate hooks =>
      simp only [hstrategy, bind_eq_ok, pure_eq_ok] at hbody
      obtain ⟨element, -, parameters, -, initLoop, hinit, preIterate, hpre, postIterate, hpost,
        rfl⟩ := hbody
      constructor
      · rfl
      · simp only [paginatedRead, ← List.append_assoc]
        rw [List.append_assoc]
        exact Lifecycle.filledFrom_fillFrom (isComplete_append (List.cons_ne_nil _ _)) _
      · refine ⟨_, ?_, ConfiguredCall.carries hfields hmethod harguments rfl
          (List.forall_mem_singleton.mpr rfl)⟩
        rw [remoteCalls_paginatedRead haccesses, fragmentCalls_cons hinit, fragmentCalls_cons hpre,
          fragmentCalls_cons hpost]
        simp [fragmentCalls]

theorem collectedType?_readBody {declared : DataSource} {hooks : PageHooks} {body : Code}
    (hstrategy : declared.api.strategy = .paginate hooks) (hbody : readBody declared = .ok body)
    (model : Identifier) :
    collectedType? (Lifecycle.load model "config" ++ body ++ Lifecycle.store) =
      some (Model.remoteType ⟨hooks.itemModel.getD declared.api.model⟩) := by
  simp only [readBody, hstrategy, bind_eq_ok, pure_eq_ok, elementType, Identifier.type_eq_ok]
    at hbody
  obtain ⟨method, -, arguments, -, element, ⟨-, -, rfl⟩, parameters, -, initLoop, -, preIterate, -,
    postIterate, -, rfl⟩ := hbody
  simp only [paginatedRead, List.append_assoc]
  rfl

end DataSource

namespace Resource

theorem sendMethod_made {declared : Resource} {operation : Operation} {context : String}
    {fields : List Code} {call : Code} (hfields : Record.Declares fields declared.attributes)
    (hcall : operationCall declared operation context (reference (word "request_body")) = .ok call)
    (stem place builder : String) (model : Identifier) :
    ∃ body, IsFunction place body (sendMethod stem place builder model call) ∧
      (sendCall place operation).IsMadeIn model.text fields body := by
  obtain ⟨method, arguments, hmethod, harguments, rfl⟩ := operationCall_ok hcall
  have haccesses := ClientCall.areAccesses harguments
  refine ⟨_, Lifecycle.isFunction_asyncMethod _ _ _ _ _, ?_⟩
  constructor
  · rfl
  · rw [List.append_assoc]
    exact Lifecycle.filledFrom_fillFrom rfl _
  · exact ⟨_, remoteCalls_send haccesses model builder place,
      ConfiguredCall.carries hfields hmethod harguments rfl (List.forall_mem_singleton.mpr rfl)⟩

theorem readMethod_made {declared : Resource} {fields : List Code} {model : Identifier}
    {code : Code} (hfields : Record.Declares fields declared.attributes)
    (hcode : readMethod declared model = .ok code) :
    ∃ body, IsFunction "read" body code ∧ declared.readCall.IsMadeIn model.text fields body := by
  unfold readCall
  cases hlist : declared.api.listRead with
  | none =>
      simp only [readMethod, hlist, bind_eq_ok, pure_eq_ok, exists_eq_left'] at hcode
      obtain ⟨call, hcall, rfl⟩ := hcode
      obtain ⟨method, arguments, hmethod, harguments, rfl⟩ := operationCall_ok hcall
      have haccesses := ClientCall.areAccesses harguments
      refine ⟨_, Lifecycle.isFunction_asyncMethod _ _ _ _ _, ?_⟩
      constructor
      · rfl
      · rw [← List.append_assoc, List.append_assoc]
        exact Lifecycle.filledFrom_fillFrom rfl _
      · exact ⟨_, remoteCalls_directRead haccesses model,
          ConfiguredCall.carries hfields hmethod harguments (List.append_nil _).symm (by simp)⟩
  | some options =>
      simp only [readMethod, hlist, listParts, bind_eq_ok, map_eq_ok, pure_eq_ok] at hcode
      obtain ⟨_, ⟨_, ⟨parameters, -, call, hcall, hasMore, -, cursor, -, initLoop, hinit,
        preIterate, hpre, postIterate, hpost, rfl⟩, rfl⟩, rfl⟩ := hcode
      obtain ⟨method, arguments, hmethod, harguments, rfl⟩ := operationCall_ok hcall
      have haccesses := ClientCall.areAccesses harguments
      refine ⟨_, Lifecycle.isFunction_asyncMethod _ _ _ _ _, ?_⟩
      constructor
      · rfl
      · rw [listedRead, ← List.append_assoc, List.append_assoc]
        exact Lifecycle.filledFrom_fillFrom rfl _
      · refine ⟨_, ?_, ConfiguredCall.carries hfields hmethod harguments rfl
          (List.forall_mem_singleton.mpr rfl)⟩
        rw [remoteCalls_listedRead, remoteCalls_scan haccesses rfl, fragmentCalls_cons hinit,
          fragmentCalls_cons hpre, fragmentCalls_cons hpost]
        simp [fragmentCalls]

theorem updateMethod_made {declared : Resource} {fields : List Code} {model : Identifier}
    {code : Code} (hfields : Record.Declares fields declared.attributes)
    (hcode : updateMethod declared model = .ok code) :
    ∃ body, IsFunction "update" body code ∧
      (declared.api.update = none → remoteCalls body = []) ∧
      ∀ update, declared.api.update = some update →
        (sendCall "update" update).IsMadeIn model.text fields body := by
  cases hupdate : declared.api.update with
  | none =>
      simp only [updateMethod, hupdate, pure_eq_ok] at hcode
      subst hcode
      exact ⟨_, Lifecycle.isFunction_asyncMethod _ _ _ _ _, fun _ => rfl, by simp⟩
  | some update =>
      simp only [updateMethod, hupdate, bind_eq_ok, pure_eq_ok] at hcode
      obtain ⟨call, hcall, rfl⟩ := hcode
      obtain ⟨body, hfunction, hmade⟩ := sendMethod_made hfields hcall "Update" "update"
        "get_update_json_request_body" model
      exact ⟨body, hfunction, by simp, fun other hother => Option.some.inj hother ▸ hmade⟩

theorem deleteMethod_made {declared : Resource} {fields : List Code} {model : Identifier}
    {code : Code} (hfields : Record.Declares fields declared.attributes)
    (hcode : deleteMethod declared model = .ok code) :
    ∃ body, IsFunction "delete" body code ∧
      (declared.api.delete = none → remoteCalls body = []) ∧
      ∀ delete, declared.api.delete = some delete →
        (deleteCall delete).IsMadeIn model.text fields body := by
  cases hdelete : declared.api.delete with
  | none =>
      simp only [deleteMethod, hdelete, pure_eq_ok] at hcode
      subst hcode
      exact ⟨_, Lifecycle.isFunction_asyncMethod _ _ _ _ _, fun _ => rfl, by simp⟩
  | some delete =>
      simp only [deleteMethod, hdelete, bind_eq_ok, pure_eq_ok] at hcode
      obtain ⟨call, hcall, rfl⟩ := hcode
      obtain ⟨method, arguments, hmethod, harguments, rfl⟩ := operationCall_ok hcall
      refine ⟨_, Lifecycle.isFunction_asyncMethod _ _ _ _ _, by simp, fun other hother => ?_⟩
      obtain rfl := Option.some.inj hother
      constructor
      · rfl
      · rfl
      · exact ⟨_, remoteCalls_delete (ClientCall.areAccesses harguments) model,
          ConfiguredCall.carries hfields hmethod harguments (List.append_nil _).symm
            (by simp [deleteCall])⟩

end Resource

end ProviderForge

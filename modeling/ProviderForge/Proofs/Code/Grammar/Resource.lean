import ProviderForge.Code.Resource
import ProviderForge.Proofs.Code.Grammar.DataSource

namespace ProviderForge.Resource

open Code Grammar Result ClientCall

structure IsFragmentFree (declared : Resource) : Prop where
  attributes : Attribute.AreFragmentFree declared.attributes
  hooks : ∀ options ∈ declared.api.listRead,
    options.initLoop = none ∧ options.preIterate = none ∧ options.postIterate = none

theorem isAccess_operationCall {declared : Resource} {operation : Operation} {context : String}
    {trailing : Code} (htrailing : trailing = [] ∨ IsExpression true trailing) {code : Code}
    (hcode : operationCall declared operation context trailing = .ok code) (allowsRecord : Bool) :
    IsAccess allowsRecord code := by
  simp only [operationCall, bind_eq_ok, pure_eq_ok] at hcode
  obtain ⟨method, hmethod, arguments, harguments, rfl⟩ := hcode
  have hvalues := isExpression_arguments harguments
  refine Lifecycle.isAccess_clientCall (Identifier.isName_of_field hmethod) ?_ allowsRecord
  rcases htrailing with rfl | htrailing
  · rw [List.append_nil]
    exact .terminated hvalues
  · exact .terminated_append hvalues htrailing

theorem isPattern_names {first second : String} {others : List String}
    (hnames : ∀ name ∈ first :: second :: others, Token.isName name = true) :
    IsPattern (parens (listed ((first :: second :: others).map word))) := by
  obtain ⟨hfirst, hothers⟩ := List.forall_mem_cons.mp hnames
  have helements : IsListing IsPattern (listed ((second :: others).map word)) := by
    refine .listed fun code hmem => ?_
    obtain ⟨name, hname, rfl⟩ := List.mem_map.mp hmem
    exact .name (hothers name hname)
  exact .tuple (.name hfirst) helements

theorem isStatements_bindRequestBody {builder : String} (hbuilder : Token.isName builder = true) :
    IsStatements (bindRequestBody builder) := by
  have hpattern : IsPattern (parens (listed (["request_body", "diags"].map word))) :=
    isPattern_names (by decide)
  have hvalue : IsCallee true (invoke (word "self") builder (reference (word "data"))) :=
    (isCallee_word (by decide)).isAccess.invoke hbuilder
      (.single (Lifecycle.isExpression_reference (by decide) (by decide)))
  have hdiagnostics : IsExpression true (word "diags") :=
    (isCallee_word (by decide)).isExpression
  exact ((IsStatements.single (.bind hpattern hvalue.isExpression)).append
    (isStatements_appendDiagnostics hdiagnostics)).append isStatements_bail

theorem isStatements_fillBody : IsStatements (Lifecycle.fillFrom (word "body")) :=
  Lifecycle.isStatements_fillFrom (isCallee_word (by decide)).isExpression

theorem isMembers_sendMethod {stem methodName builder : String}
    (hrequest : Token.isName (stem ++ "Request") = true)
    (hresponse : Token.isName (stem ++ "Response") = true)
    (hmethod : Token.isName methodName = true) (hbuilder : Token.isName builder = true)
    {model : Identifier} (hmodel : Token.isName model.text = true) {call : Code}
    (hcall : ∀ allowsRecord, IsAccess allowsRecord call) :
    IsMembers (sendMethod stem methodName builder model call) := by
  have hplan : Token.isName "plan" = true := by decide
  have hbody := ((((Lifecycle.isStatements_load hmodel hplan).append
    (isStatements_bindRequestBody hbuilder)).append
    (isStatements_checked hcall methodName .diagnostic)).append isStatements_fillBody).append
    Lifecycle.isStatements_store
  exact Lifecycle.isMembers_asyncMethod (.inr rfl) hrequest hresponse hmethod (by decide)
    hbody.isBody

theorem isExpression_requestBody : IsExpression true (reference (word "request_body")) :=
  Lifecycle.isExpression_reference (by decide) (by decide)

theorem isMembers_createMethod {declared : Resource} {model : Identifier}
    (hmodel : Token.isName model.text = true) {code : Code}
    (hcode : createMethod declared model = .ok code) : IsMembers code := by
  simp only [createMethod, bind_eq_ok, pure_eq_ok] at hcode
  obtain ⟨call, hcall, rfl⟩ := hcode
  exact isMembers_sendMethod (by decide) (by decide) (by decide) (by decide) hmodel
    (isAccess_operationCall (.inr isExpression_requestBody) hcall)

theorem isMembers_updateMethod {declared : Resource} {model : Identifier}
    (hmodel : Token.isName model.text = true) {code : Code}
    (hcode : updateMethod declared model = .ok code) : IsMembers code := by
  unfold updateMethod at hcode
  split at hcode
  · rw [← pure_eq_ok.mp hcode]
    have hbody := isStatements_addError "Not Supported"
      (isCallee_text "Update is not supported for this resource").isExpression
    exact Lifecycle.isMembers_asyncMethod (.inr rfl) (by decide) (by decide) (by decide)
      (by decide) hbody.isBody
  · simp only [bind_eq_ok, pure_eq_ok] at hcode
    obtain ⟨call, hcall, rfl⟩ := hcode
    exact isMembers_sendMethod (by decide) (by decide) (by decide) (by decide) hmodel
      (isAccess_operationCall (.inr isExpression_requestBody) hcall)

theorem isStatements_checkDeleted {call : Code}
    (hcall : ∀ allowsRecord, IsAccess allowsRecord call) :
    IsStatements (checkDeleted call) := by
  have hgone : IsExpression false (status ++ operator '=' '=' ++ statusCode "NOT_FOUND") :=
    .comparison (.inr rfl) (isAccess_response false) (by decide) .nil
      (isCallee_statusCode (by decide)).isOperand
  exact ((isStatements_bindResponse hcall "delete").append
    (.single (IsBlockLike.when hgone isStatements_return.isBody).isStatement)).append
    (.single (IsBlockLike.when isExpression_isNotSuccess
      (isStatements_statusError "delete").isBody).isStatement)

theorem isMembers_deleteMethod {declared : Resource} {model : Identifier}
    (hmodel : Token.isName model.text = true) {code : Code}
    (hcode : deleteMethod declared model = .ok code) : IsMembers code := by
  unfold deleteMethod at hcode
  split at hcode
  · rw [← pure_eq_ok.mp hcode]
    have harguments : IsArguments (terminated [text "Not Supported",
        text ("Delete is not supported for this resource. " ++
          "Please manually delete the resource.")]) :=
      .terminated (by simpa using ⟨(isCallee_text _).isExpression, (isCallee_text _).isExpression⟩)
    have hwarning := isSentence_diagnostics (by decide : Token.isName "add_warning" = true)
      harguments
    exact Lifecycle.isMembers_asyncMethod (.inr rfl) (by decide) (by decide) (by decide)
      (by decide) hwarning.isStatements.isBody
  · simp only [bind_eq_ok, pure_eq_ok] at hcode
    obtain ⟨call, hcall, rfl⟩ := hcode
    have hstate : Token.isName "state" = true := by decide
    have hbody := (Lifecycle.isStatements_load hmodel hstate).append
      (isStatements_checkDeleted (isAccess_operationCall (.inl rfl) hcall))
    exact Lifecycle.isMembers_asyncMethod (.inr rfl) (by decide) (by decide) (by decide)
      (by decide) hbody.isBody

theorem isStatement_listParameters {parameters : Identifier}
    (hname : Token.isName parameters.text = true) (limit : Nat) :
    IsStatement (listParameters parameters limit) := by
  have hlimit : IsCallee true (call (word "Some") (number limit)) :=
    (isCallee_word (by decide)).call (.single (isCallee_number limit).isExpression)
  have hrecord : IsCallee true (within (word "apiclient") (ident parameters) ++ braces
      (entry "limit" (call (word "Some") (number limit)) ++ remainingDefaults)) :=
    .record (isPath_append (isPath_word (by decide)) (.word (.inl hname)))
      (isFields_remainingDefaults (.entry (by decide) hlimit.isExpression))
  exact .bindMutable (by decide) hrecord.isExpression

theorem isPattern_someItem {variableName : String} (hname : Token.isName variableName = true) :
    IsPattern (call (word "Some") (word variableName)) :=
  isPattern_holding (by decide) hname

theorem isStatement_returnMatch : IsStatement returnMatch := by
  have hdata : IsExpression true (reference (word "data")) :=
    Lifecycle.isExpression_reference (by decide) (by decide)
  have hitem : IsCallee true (word "item") := isCallee_word (by decide)
  have hmatch : IsCallee true
      (invoke (word "self") "resource_match" (listed [reference (word "data"), word "item"])) :=
    (isCallee_word (by decide)).isAccess.invoke (by decide)
      (.listed (by simpa using ⟨hdata, hitem.isExpression⟩))
  have hclosure : IsExpression true (closure (word "item")
      (invoke (word "self") "resource_match" (listed [reference (word "data"), word "item"]))) :=
    .closure (by decide) (startsPlainly_ident _ _) hmatch.isExpression
  have hcandidates : IsCallee false (invoke (fields (word "body") ["data"]) "iter" []) :=
    (isAccess_fields (by decide) (by decide)).invoke (by decide) .nil
  have hfound := hcandidates.isAccess.invoke (by decide : Token.isName "find" = true)
    (.single hclosure)
  have hcopy : IsCallee true (invoke (word "item") "clone" []) :=
    hitem.isAccess.invoke (by decide) .nil
  have hresult : IsCallee true (call (word "Ok") (invoke (word "item") "clone" [])) :=
    (isCallee_word (by decide)).call (.single hcopy.isExpression)
  have hreturn := IsSentence.returning hresult.isExpression rfl (by decide)
  exact (IsBlockLike.when (.binder (isPattern_someItem (by decide)) hfound.isOperand)
    hreturn.isStatements.isBody).isStatement

theorem isStatements_advance {hasMore cursor : Identifier}
    (hhasMore : Token.isName hasMore.text = true) (hcursor : Token.isName cursor.text = true) :
    IsStatements (advance hasMore cursor) := by
  have hbody : IsAccess false (word "body") := (isCallee_word (by decide)).isAccess
  have hflag : IsCallee false (invoke (field (word "body") (ident hasMore)) "unwrap_or"
      (word "false")) :=
    (hbody.field hhasMore).invoke (by decide) (.single (isCallee_truth (.inr rfl)).isExpression)
  have hstop : IsBlockLike (when (mark '!' ++ invoke (field (word "body") (ident hasMore))
      "unwrap_or" (word "false")) (Code.statement (word "break"))) :=
    .when hflag.isOperand.negation.isExpression IsSentence.break.isStatements.isBody
  have hnext : IsCallee false (invoke (field (word "body") (ident cursor)) "as_deref" []) :=
    (hbody.field hcursor).invoke (by decide) .nil
  have hempty : IsCallee true (invoke (word "cursor") "is_empty" []) :=
    (isCallee_word (by decide)).isAccess.invoke (by decide) .nil
  have hcopy : IsCallee true (invoke (word "cursor") "to_string" []) :=
    (isCallee_word (by decide)).isAccess.invoke (by decide) .nil
  have hsome : IsCallee true (call (word "Some") (invoke (word "cursor") "to_string" [])) :=
    (isCallee_word (by decide)).call (.single hcopy.isExpression)
  have hassignment : IsSentence (fields (word "params") ["after"] ++ mark '=' ++
      call (word "Some") (invoke (word "cursor") "to_string" [])) := by
    refine .assignment (isAccess_fields (by decide) (by decide)) hsome.isOperand fun rest => ?_
    simpa [mark] using Lifecycle.beginsSentence_field (by decide : "params" ∉ statementWords) rest
  have harms : IsArms (_ ++ arm (word "_") (word "break")) :=
    (IsArms.guarded (isPattern_someItem (by decide : Token.isName "cursor" = true))
      hempty.isOperand.negation.isExpression hassignment).append
      (IsArms.arm .wildcard IsSentence.break)
  have hselection := IsBlockLike.choose hnext.isExpression harms
  have hboth := (IsStatements.single hstop.isStatement).append (.single hselection.isStatement)
  simpa [advance, arm] using hboth

structure ListParts.AreUsable (parts : ListParts) : Prop where
  parameters : Token.isName parts.parameters.text = true
  call : ∀ allowsRecord, IsAccess allowsRecord parts.call
  hasMore : Token.isName parts.hasMore.text = true
  cursor : Token.isName parts.cursor.text = true
  initLoop : parts.initLoop = []
  preIterate : parts.preIterate = []
  postIterate : parts.postIterate = []

theorem isBody_scan {parts : ListParts} (hparts : parts.AreUsable) (limit : Nat) :
    IsBody (scan parts limit) := by
  have hpage := ((isStatements_checked hparts.call "read" .propagate).append
    (.single isStatement_returnMatch)).append (isStatements_advance hparts.hasMore hparts.cursor)
  have hlist := isStatement_listParameters hparts.parameters limit
  have hstatements := (IsStatements.single hlist).append
    (.single (IsBlockLike.loop hpage.isBody).isStatement)
  have hmissing : IsSentence (call (word "Err") (ownedText notFoundInList)) :=
    isSentence_call (by decide) (by decide) (.single (isCallee_ownedText _).isExpression)
  have hbody := hstatements.body hmissing
  simpa [scan, hparts.initLoop, hparts.preIterate, hparts.postIterate] using hbody

theorem isStatements_listedRead (options : ListRead) {parts : ListParts}
    (hparts : parts.AreUsable) : IsStatements (listedRead options parts) := by
  have hdelay : IsCallee true (call (path ["std", "time", "Duration", "from_secs"])
      (number options.retryDelaySeconds.toNat)) :=
    (isCallee_path (by decide)).call (.single (isCallee_number _).isExpression)
  have hblock : IsCallee true
      (word "async" ++ braces (scan parts options.pageLimit.toNat)) :=
    .asyncBlock (isBody_scan hparts _)
  have hattempt : IsExpression true (operator '|' '|' ++ (word "async" ++
      braces (scan parts options.pageLimit.toNat))) :=
    .thunk (startsPlainly_ident _ _) hblock.isExpression
  have harguments : IsArguments (listed [number options.retryAttempts.toNat,
      call (path ["std", "time", "Duration", "from_secs"]) (number options.retryDelaySeconds.toNat),
      operator '|' '|' ++ (word "async" ++ braces (scan parts options.pageLimit.toNat))]) :=
    .listed (by simpa using ⟨(isCallee_number _).isExpression, hdelay.isExpression, hattempt⟩)
  have hretry : IsCallee true (call (path ["retry", "with_fixed_delay"]) _) :=
    (isCallee_path (by decide)).call harguments
  have hresult : IsStatement (Code.bind (word "result") (awaited _)) :=
    .bind (.name (by decide)) hretry.isAccess.await.isExpression
  have hitem : IsArms (arm (call (word "Ok") (word "item")) (word "item")) :=
    .arm (isPattern_holding (by decide) (by decide)) (isSentence_word (by decide) (by decide))
  have hmessage : IsExpression true (word "err") := (isCallee_word (by decide)).isExpression
  have hselection : IsCallee true (choose (word "result") (_ ++ armBlock
      (call (word "Err") (word "err"))
      (addError "Client Error" (word "err") ++ Code.statement (word "return")))) :=
    .choose (isCallee_word (by decide)).isExpression (hitem.append (isArms_failure hmessage))
  have hdata : IsStatement (Code.bind (word "response_data") _) :=
    .bind (.name (by decide)) hselection.isExpression
  have hfill := Lifecycle.isStatements_fillFrom
    (Lifecycle.isExpression_reference (by decide : Token.IsPathWord "response_data") (by decide))
  have hall := ((IsStatements.single hresult).append (.single hdata)).append hfill
  simpa [listedRead] using hall

theorem areUsable_listParts {declared : Resource} {options : ListRead}
    (hhooks : options.initLoop = none ∧ options.preIterate = none ∧ options.postIterate = none)
    {parts : ListParts} (hparts : listParts declared options = .ok parts) : parts.AreUsable := by
  obtain ⟨hinit, hpre, hpost⟩ := hhooks
  simp only [listParts, hinit, hpre, hpost, ofFragment?, ok_bind, bind_eq_ok,
    pure_eq_ok] at hparts
  obtain ⟨parameters, hparameters, call, hcall, hasMore, hhasMore, cursor, hcursor, rfl⟩ := hparts
  have hparams : IsExpression true (reference (word "params")) :=
    Lifecycle.isExpression_reference (by decide) (by decide)
  exact {
    parameters := Identifier.isName_of_type hparameters
    call := isAccess_operationCall (.inr hparams) hcall
    hasMore := Identifier.isName_of_field hhasMore
    cursor := Identifier.isName_of_field hcursor
    initLoop := rfl
    preIterate := rfl
    postIterate := rfl }

theorem isMembers_readMethod {declared : Resource} (hfree : declared.IsFragmentFree)
    {model : Identifier} (hmodel : Token.isName model.text = true) {code : Code}
    (hcode : readMethod declared model = .ok code) : IsMembers code := by
  have hload := Lifecycle.isStatements_load hmodel (by decide : Token.isName "state" = true)
  have hmethod : ∀ fetch, IsStatements fetch → IsMembers
      (Lifecycle.asyncMethod "resource" "Read" "read" "req"
        (Lifecycle.load model "state" ++ fetch ++ Lifecycle.store)) := fun fetch hfetch =>
    Lifecycle.isMembers_asyncMethod (.inr rfl) (by decide) (by decide) (by decide) (by decide)
      ((hload.append hfetch).append Lifecycle.isStatements_store).isBody
  unfold readMethod at hcode
  cases hlist : declared.api.listRead with
  | none =>
      simp only [hlist, bind_eq_ok, pure_bind, pure_eq_ok] at hcode
      obtain ⟨call, hcall, rfl⟩ := hcode
      exact hmethod _ ((isStatements_checked (isAccess_operationCall (.inl rfl) hcall) "read"
        .diagnostic).append isStatements_fillBody)
  | some options =>
      simp only [hlist, bind_eq_ok, map_eq_ok, pure_eq_ok] at hcode
      obtain ⟨_, ⟨parts, hparts, rfl⟩, rfl⟩ := hcode
      exact hmethod _ (isStatements_listedRead options
        (areUsable_listParts (hfree.hooks options hlist) hparts))

theorem isCallee_rootPath (attributeName : String) : IsCallee true (rootPath attributeName) :=
  (isCallee_path (by decide)).call (.single (isCallee_text attributeName).isExpression)

theorem isStatements_splitImport {splitter : String} (hsplitter : Token.isName splitter = true)
    {names : List String} {first second : String} {others : List String}
    (hparts : ∀ part ∈ first :: second :: others,
      Token.IsPathWord part ∧ Token.isName part = true) :
    IsStatements (splitImport splitter names (first :: second :: others)) := by
  have hidentifier : IsExpression true (reference (fields (word "req") ["id"])) :=
    ((isAccess_fields (by decide) (by decide)).isOperand.reference
      (.inl ⟨"req", _, rfl, by decide, by decide⟩)).isExpression
  have harguments : IsArguments
      (listed (reference (fields (word "req") ["id"]) :: names.map text)) := by
    refine .listed (List.forall_mem_cons.mpr ⟨hidentifier, fun code hmem => ?_⟩)
    obtain ⟨name, -, rfl⟩ := List.mem_map.mp hmem
    exact (isCallee_text name).isExpression
  have hsplit : IsCallee false (call (path ["tfutils", splitter])
      (listed (reference (fields (word "req") ["id"]) :: names.map text))) :=
    (isCallee_path (by simpa using ⟨by decide, .inl hsplitter⟩)).call harguments
  have hresult : IsArms (arm (call (word "Ok") (word "parts")) (word "parts")) :=
    .arm (isPattern_holding (by decide) (by decide)) (isSentence_word (by decide) (by decide))
  have hselection : IsCallee true (choose _ (_ ++ armBlock (call (word "Err") (word "err"))
      (addError "Invalid ID" (formatted "Error parsing ID: \x7berr\x7d") ++
        Code.statement (word "return")))) :=
    .choose hsplit.isExpression
      (hresult.append (isArms_failure (isCallee_formatted _).isExpression))
  have hbinding : IsStatement
      (Code.bind (parens (listed ((first :: second :: others).map word))) _) :=
    .bind (isPattern_names fun part hmem => (hparts part hmem).2) hselection.isExpression
  refine (IsStatements.single hbinding).append ?_
  rw [List.flatMap_def]
  refine .flatten fun code hmem => ?_
  obtain ⟨⟨name, part⟩, hpair, rfl⟩ := List.mem_map.mp hmem
  have hpart := (hparts part (List.of_mem_zip hpair).2).1
  have hvalues : IsArguments (listed [rootPath name, word part]) :=
    .listed (by simpa using ⟨(isCallee_rootPath name).isExpression,
      (isCallee_word hpart).isExpression⟩)
  have hstate : IsAccess true (fields (word "resp") ["state"]) :=
    isAccess_fields (by decide) (by decide)
  have hset := hstate.invoke (by decide : Token.isName "set_attribute" = true) hvalues
  exact (IsStatements.single (.bind (.name (by decide)) hset.isExpression)).append
    (isStatements_appendDiagnostics (isCallee_word (by decide)).isExpression)

theorem isStatements_importBody {names : List String} {body : Code}
    (hbody : importBody? names = some body) : IsStatements body := by
  unfold importBody? at hbody
  split at hbody
  case h_1 only =>
    rw [← Option.some.inj hbody]
    have hword : ∀ text, Token.IsPathWord text → IsExpression true (word text) :=
      fun text hword => (isCallee_word hword).isExpression
    exact (isSentence_pathCall (by decide) (by decide) (by decide)
      (.listed (by simpa using ⟨(isCallee_rootPath only).isExpression,
        hword "req" (by decide), hword "resp" (by decide)⟩))).isStatements
  case h_2 | h_3 =>
    rw [← Option.some.inj hbody]
    exact isStatements_splitImport (by decide) (by decide)
  case h_4 => cases hbody

theorem isItems_importImplementation {declared : Resource} {typeName : Identifier}
    (hname : Token.isName typeName.text = true) {code : Code}
    (hcode : (importImplementation declared typeName).result = .ok code) : IsItems code := by
  unfold importImplementation at hcode
  simp only [Traced.result_bind, Traced.result_ofExcept, bind_eq_ok] at hcode
  obtain ⟨_, -, hcode⟩ := hcode
  split at hcode
  next body hbody =>
    simp only [Traced.result_pure, Except.ok.injEq] at hcode
    rw [← hcode]
    have hmember : IsMembers (importMethod body) :=
      Lifecycle.isMembers_method (.inr rfl) (by decide) (by decide) (by decide) (by decide)
        (isStatements_importBody hbody).isBody
    exact Lifecycle.isItems_implementation (.inr rfl) (by decide) hname hmember
      (by simp [importMethod, Lifecycle.method, word])
  next =>
    split at hcode
    all_goals
      simp only [Traced.result_bind, Traced.result_report, ok_bind, Traced.result_pure,
        Except.ok.injEq] at hcode
      rw [← hcode]
      exact .nil

theorem isItems_head {declared : Resource} (hfree : declared.IsFragmentFree)
    {typeName : Identifier} {code : Code} (hcode : head declared = .ok (typeName, code)) :
    Token.isName typeName.text = true ∧ IsItems code ∧
      ∃ later, code = Lifecycle.imports ++ later := by
  simp only [head, bind_eq_ok, pure_eq_ok, Prod.mk.injEq] at hcode
  obtain ⟨typeName, htypeName, table, htable, model, hmodel, create, hcreate, read, hread, update,
    hupdate, delete, hdelete, rfl, rfl⟩ := hcode
  have hname := Identifier.isName_of_type htypeName
  have hmodelName := Identifier.isName_of_type hmodel
  have hrole : "resource" = "datasource" ∨ "resource" = "resource" := .inr rfl
  have hmembers : IsMembers (Lifecycle.metadata "resource" declared.name ++
      Lifecycle.schema "resource" declared.description table ++ create ++ read ++ update ++
      delete) :=
    (((((Lifecycle.isMembers_metadata hrole declared.name).append
      (Lifecycle.isMembers_schema hrole declared.description
        (isCallee_schemaTable hfree.attributes htable))).append
      (isMembers_createMethod hmodelName hcreate)).append
      (isMembers_readMethod hfree hmodelName hread)).append
      (isMembers_updateMethod hmodelName hupdate)).append
      (isMembers_deleteMethod hmodelName hdelete)
  have htype : IsItems (Lifecycle.entityType typeName "BaseResource" "resource" "Resource") :=
    Lifecycle.isItems_entityType hname (by decide) hrole (by decide)
  refine ⟨hname, (Lifecycle.isItems_imports.append htype).append
    (Lifecycle.isItems_implementation hrole (by decide) hname hmembers ?_), ?_⟩
  · simp [Lifecycle.metadata, Lifecycle.method, word]
  · exact ⟨_, List.append_assoc _ _ _⟩

theorem isFile_code {declared : Resource} (hfree : declared.IsFragmentFree) {code : Code}
    (hcode : declared.code.result = .ok code) : ∃ file, SourceFile.ofCode code = .ok file := by
  simp only [Resource.code, model, Traced.result_bind, Traced.result_ofExcept,
    Traced.result_report, Model.reportRepetitions, Traced.result_reportAll, Traced.result_pure,
    ok_bind, bind_eq_ok, Except.ok.injEq] at hcode
  obtain ⟨⟨typeName, head⟩, hhead, imports, himports, model, ⟨record, hrecord, hmodel⟩, rfl⟩ :=
    hcode
  obtain ⟨hname, hitems, later, rfl⟩ := isItems_head hfree hhead
  have hmodels := Model.isItems_compile hfree.attributes
    (Model.isPath_remoteType hrecord false).isType (Model.isReferable_remoteType record) hmodel
  refine IsItems.isFile
    ((hitems.append (isItems_importImplementation hname himports)).append hmodels) ?_
  rw [List.append_assoc, List.append_assoc]
  exact Lifecycle.atMark_imports _

end ProviderForge.Resource

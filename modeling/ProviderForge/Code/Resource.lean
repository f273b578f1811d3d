import ProviderForge.Code.Lifecycle
import ProviderForge.Definition.Entity

/-!
Files of resources. An operation that is not configured answers "Not Supported" without a
call. A listed read scans the pages for the item that matches, and tries the whole scan
again a bounded number of times. Import state exists for one to three identifying attributes.
-/

namespace ProviderForge.Resource

open Code ClientCall

def notFoundInList : String :=
  "Unable to read, could not find resource in the list"

def recordName (declared : Resource) : String :=
  declared.api.model.getD (Name.upperCamel declared.name)

def operationCall (declared : Resource) (operation : Operation) (context : String)
    (trailing : Code) : Except Failure Code := do
  let method ← Identifier.method operation.method
  let arguments ←
    ClientCall.arguments declared.name context declared.attributes operation.arguments "data"
  return call (field Lifecycle.client (ident method)) (terminated arguments ++ trailing)

def bindRequestBody (builder : String) : Code :=
  bind (parens (listed [word "request_body", word "diags"]))
      (invoke (word "self") builder (reference (word "data"))) ++
    appendDiagnostics (word "diags") ++ bail

def sendMethod (stem methodName builder : String) (model : Identifier) (call : Code) : Code :=
  Lifecycle.asyncMethod "resource" stem methodName "req"
    (Lifecycle.load model "plan" ++ bindRequestBody builder ++
      checked call methodName .diagnostic ++ Lifecycle.fillFrom (word "body") ++ Lifecycle.store)

def createMethod (declared : Resource) (model : Identifier) : Except Failure Code := do
  let call ← operationCall declared declared.api.create "create request"
    (reference (word "request_body"))
  return sendMethod "Create" "create" "get_create_json_request_body" model call

def listParameters (parameters : Identifier) (limit : Nat) : Code :=
  bindMutable "params"
    (within (word "apiclient") (ident parameters) ++ braces
      (entry "limit" (call (word "Some") (number limit)) ++ remainingDefaults))

def returnMatch : Code :=
  let candidates := invoke (fields (word "body") ["data"]) "iter" []
  let isMatch := closure (word "item")
    (invoke (word "self") "resource_match" (listed [reference (word "data"), word "item"]))
  when (word "let" ++ call (word "Some") (word "item") ++ mark '=' ++
      invoke candidates "find" isMatch)
    (statement (word "return" ++ call (word "Ok") (invoke (word "item") "clone" [])))

/-- The scan goes on while the flag is set and the cursor is not empty. -/
def advance (hasMore cursor : Identifier) : Code :=
  when (mark '!' ++ invoke (field (word "body") (ident hasMore)) "unwrap_or" (word "false"))
      (statement (word "break")) ++
  choose (invoke (field (word "body") (ident cursor)) "as_deref" [])
    (call (word "Some") (word "cursor") ++ word "if" ++ mark '!' ++
        invoke (word "cursor") "is_empty" [] ++ fatArrow ++
        fields (word "params") ["after"] ++ mark '=' ++
        call (word "Some") (invoke (word "cursor") "to_string" []) ++ mark ',' ++
      arm (word "_") (word "break"))

structure ListParts where
  parameters : Identifier
  call : Code
  hasMore : Identifier
  cursor : Identifier
  initLoop : Code
  preIterate : Code
  postIterate : Code

def scan (parts : ListParts) (limit : Nat) : Code :=
  listParameters parts.parameters limit ++ parts.initLoop ++
  loop
    (parts.preIterate ++ checked parts.call "read" .propagate ++ returnMatch ++
      advance parts.hasMore parts.cursor ++ parts.postIterate) ++
  call (word "Err") (ownedText notFoundInList)

def listedRead (options : ListRead) (parts : ListParts) : Code :=
  let delay := call (path ["std", "time", "Duration", "from_secs"])
    (number options.retryDelaySeconds.toNat)
  let attempt := operator '|' '|' ++ word "async" ++
    braces (scan parts options.pageLimit.toNat)
  bind (word "result")
    (awaited (call (path ["retry", "with_fixed_delay"])
      (listed [number options.retryAttempts.toNat, delay, attempt]))) ++
  bind (word "response_data") (choose (word "result")
    (arm (call (word "Ok") (word "item")) (word "item") ++
      armBlock (call (word "Err") (word "err"))
        (addError "Client Error" (word "err") ++ statement (word "return")))) ++
  Lifecycle.fillFrom (reference (word "response_data"))

def listParts (declared : Resource) (options : ListRead) : Except Failure ListParts := do
  let read := declared.api.read
  let parameters ← Identifier.parameters read.method
  let call ← operationCall declared read "read request" (reference (word "params"))
  let hasMore ← Identifier.field options.hasMoreField
  let cursor ← Identifier.field options.cursorField
  let initLoop ← ofFragment? "paginated read init_loop" options.initLoop
  let preIterate ← ofFragment? "paginated read pre_iterate" options.preIterate
  let postIterate ← ofFragment? "paginated read post_iterate" options.postIterate
  return { parameters, call, hasMore, cursor, initLoop, preIterate, postIterate }

def readMethod (declared : Resource) (model : Identifier) : Except Failure Code := do
  let fetch ← match declared.api.listRead with
    | none => do
        let call ← operationCall declared declared.api.read "read request" []
        pure (checked call "read" .diagnostic ++ Lifecycle.fillFrom (word "body"))
    | some options => listedRead options <$> listParts declared options
  return Lifecycle.asyncMethod "resource" "Read" "read" "req"
    (Lifecycle.load model "state" ++ fetch ++ Lifecycle.store)

def updateMethod (declared : Resource) (model : Identifier) : Except Failure Code := do
  match declared.api.update with
  | none =>
      return Lifecycle.asyncMethod "resource" "Update" "update" "_req"
        (addError "Not Supported" (text "Update is not supported for this resource"))
  | some update => do
      let call ← operationCall declared update "update request"
        (reference (word "request_body"))
      return sendMethod "Update" "update" "get_update_json_request_body" model call

/-- A record that is already gone counts as deleted. -/
def checkDeleted (call : Code) : Code :=
  bindResponse call "delete" ++
  when (status ++ operator '=' '=' ++ statusCode "NOT_FOUND") (statement (word "return")) ++
  when isNotSuccess
    (statement (invoke diagnostics "add_error"
      (text "Client Error" ++ mark ',' ++
        macroCall "format" (statusArguments "delete") ++ mark ',')))

def deleteMethod (declared : Resource) (model : Identifier) : Except Failure Code := do
  match declared.api.delete with
  | none =>
      return Lifecycle.asyncMethod "resource" "Delete" "delete" "_req"
        (statement (invoke diagnostics "add_warning"
          (terminated
            [text "Not Supported",
              text ("Delete is not supported for this resource. " ++
                "Please manually delete the resource.")])))
  | some delete => do
      let call ← operationCall declared delete "delete request" []
      return Lifecycle.asyncMethod "resource" "Delete" "delete" "req"
        (Lifecycle.load model "state" ++ checkDeleted call)

def rootPath (attributeName : String) : Code :=
  call (path ["path", "root"]) (text attributeName)

def importMethod (body : Code) : Code :=
  Lifecycle.method "resource" "ImportState" "import_state" "req" body

def splitImport (splitter : String) (names parts : List String) : Code :=
  let identifier := reference (fields (word "req") ["id"])
  bind (parens (listed (parts.map word)))
    (choose (call (path ["tfutils", splitter]) (listed (identifier :: names.map text)))
      (arm (call (word "Ok") (word "parts")) (word "parts") ++
        armBlock (call (word "Err") (word "err"))
          (addError "Invalid ID" (formatted "Error parsing ID: \x7berr\x7d") ++
            statement (word "return")))) ++
  (names.zip parts).flatMap fun (name, part) =>
    bind (word "diags") (invoke (fields (word "resp") ["state"]) "set_attribute"
        (listed [rootPath name, word part])) ++
      appendDiagnostics (word "diags")

/-- The body of the import method, where the number of attributes admits one. -/
def importBody? : List String → Option Code
  | [only] =>
      some (statement (call (path ["resource", "import_state_passthrough_id"])
        (listed [rootPath only, word "req", word "resp"])))
  | [first, second] =>
      some (splitImport "split_two_part_id" [first, second] ["first", "second"])
  | [first, second, third] =>
      some (splitImport "split_three_part_id" [first, second, third]
        ["first", "second", "third"])
  | _ => none

def checkImports (declared : Resource) : Except Failure Unit :=
  declared.importAttributes.forM fun requested =>
    match lookup? declared.attributes requested with
    | some _ => .ok ()
    | none => .error (.unknownAttribute declared.name requested "import state")

def importImplementation (declared : Resource) (typeName : Identifier) :
    Traced Failure Code := do
  Traced.ofExcept (checkImports declared)
  match importBody? declared.importAttributes with
  | some body =>
      return Lifecycle.implementation "resource" "ResourceWithImportState" typeName
        (importMethod body)
  | none =>
      if !declared.importAttributes.isEmpty then
        Traced.report (.noImportState declared.name declared.importAttributes.length)
      return []

def head (declared : Resource) : Except Failure (Identifier × Code) := do
  let typeName ← Identifier.type (Name.resourceType declared.name)
  let modelName := Name.resourceModel declared.name
  let table ← Attribute.schemaTable modelName declared.attributes
  let model ← Identifier.type modelName
  let create ← createMethod declared model
  let read ← readMethod declared model
  let update ← updateMethod declared model
  let delete ← deleteMethod declared model
  return (typeName,
    Lifecycle.imports ++
      Lifecycle.entityType typeName "BaseResource" "resource" "Resource" ++
      Lifecycle.implementation "resource" "Resource" typeName
        (Lifecycle.metadata "resource" declared.name ++
          Lifecycle.schema "resource" declared.description table ++
          create ++ read ++ update ++ delete))

def model (declared : Resource) : Traced Failure Model := do
  let record ← Traced.ofExcept (Identifier.type (recordName declared))
  Model.compile (Name.resourceModel declared.name) declared.attributes
    (Model.remoteType record) true

def code (declared : Resource) : Traced Failure Code := do
  Traced.report (.generatingResource declared.name)
  let (typeName, head) ← Traced.ofExcept (head declared)
  let imports ← importImplementation declared typeName
  let model ← model declared
  model.reportRepetitions declared.name
  return head ++ imports ++ model.code

end ProviderForge.Resource

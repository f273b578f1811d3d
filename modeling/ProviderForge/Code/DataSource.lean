import ProviderForge.Code.Lifecycle
import ProviderForge.Definition.Entity

namespace ProviderForge.DataSource

open Code ClientCall

def elementType (api : DataSourceApi) : String :=
  match api.strategy with
  | .simple => api.model
  | .paginate hooks => hooks.itemModel.getD api.model

def sourceType (api : DataSourceApi) : Except Failure Code := do
  let _ ← Identifier.type api.model
  let element ← Identifier.type (elementType api)
  match api.strategy with
  | .simple => return Model.remoteType element
  | .paginate _ => return brackets (Model.remoteType element)

def simpleRead (method : Identifier) (arguments : List Code) : Code :=
  checked (call (field Lifecycle.client (ident method)) (listed arguments)) "read" .diagnostic ++
    Lifecycle.fillFrom (word "body")

def cursor : Code :=
  fields (word "params") ["cursor"]

def advance : Code :=
  assign cursor (call (path ["sentryclient", "parse_next_pagination_cursor"])
      (reference response)) ++
    when (invoke cursor "is_none" []) (statement (word "break"))

def paginatedRead (method element parameters : Identifier) (arguments : List Code)
    (initLoop preIterate postIterate : Code) : Code :=
  word "let" ++ word "mut" ++ word "model_instances" ++ mark ':' ++
    word "Vec" ++ angled (Model.remoteType element) ++ mark '=' ++
    statement (call (path ["Vec", "new"]) []) ++
  bindMutable "params" (defaultOf (within (word "apiclient") (ident parameters))) ++
  initLoop ++
  loop
    (preIterate ++
      checked (call (field Lifecycle.client (ident method))
        (terminated arguments ++ reference (word "params"))) "read" .diagnostic ++
      statement (invoke (word "model_instances") "extend_from_slice" (word "body")) ++
      advance ++ postIterate) ++
  Lifecycle.fillFrom (reference (word "model_instances"))

def readBody (declared : DataSource) : Except Failure Code := do
  let api := declared.api
  let method ← Identifier.method api.readMethod
  let arguments ←
    ClientCall.arguments declared.name "read request" declared.attributes api.readArguments "data"
  match api.strategy with
  | .simple => return simpleRead method arguments
  | .paginate hooks => do
      let element ← Identifier.type (elementType api)
      let parameters ← Identifier.parameters api.readMethod
      let initLoop ← ofFragment? "read_init_loop" hooks.initLoop
      let preIterate ← ofFragment? "read_pre_iterate" hooks.preIterate
      let postIterate ← ofFragment? "read_post_iterate" hooks.postIterate
      return paginatedRead method element parameters arguments initLoop preIterate postIterate

def head (declared : DataSource) : Except Failure Code := do
  let typeName ← Identifier.type (Name.dataSourceType declared.name)
  let modelName := Name.dataSourceModel declared.name
  let model ← Identifier.type modelName
  let table ← Attribute.schemaTable modelName declared.attributes
  let body ← readBody declared
  return Lifecycle.imports ++
    Lifecycle.entityType typeName "BaseDataSource" "datasource" "DataSource" ++
    Lifecycle.implementation "datasource" "DataSource" typeName
      (Lifecycle.metadata "datasource" declared.name ++
        Lifecycle.schema "datasource" declared.description table ++
        Lifecycle.asyncMethod "datasource" "Read" "read" "req"
          (Lifecycle.load model "config" ++ body ++ Lifecycle.store))

def model (declared : DataSource) : Traced Failure Model := do
  let sourceType ← Traced.ofExcept (sourceType declared.api)
  Model.compile (Name.dataSourceModel declared.name) declared.attributes sourceType
    declared.modelFillers

def code (declared : DataSource) : Traced Failure Code := do
  Traced.report (.generatingDataSource declared.name)
  let head ← Traced.ofExcept (head declared)
  let model ← model declared
  model.reportRepetitions declared.name
  return head ++ model.code

end ProviderForge.DataSource

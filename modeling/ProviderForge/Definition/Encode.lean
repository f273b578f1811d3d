import ProviderForge.Definition.Entity
import ProviderForge.Json.Basic

namespace ProviderForge

def Json.optionalMember (key : String) (encode : α → Json) : Option α → List (String × Json)
  | some value => [(key, encode value)]
  | none => []

def Json.listMember (key : String) (values : List String) : List (String × Json) :=
  if values.isEmpty then [] else [(key, Json.strings values)]

open Json

def AttributeOptions.members (options : AttributeOptions) : List (String × Json) :=
  [("name", .string options.name), ("description", .string options.description)] ++
    optionalMember "deprecation_message" .string options.deprecation ++
    [("computed_optional_required", .string options.requiredness.name),
      ("sensitive", .bool options.sensitive)] ++
    listMember "validators" options.validators ++
    listMember "plan_modifiers" options.planModifiers ++
    [("nullable", .bool options.nullable)] ++
    optionalMember "source_attribute" .strings options.source ++
    optionalMember "source_type" (fun form => .string form.name) options.sourceForm ++
    optionalMember "destination_attribute" .strings options.destination ++
    [("skip_fill", .bool options.skipFill)] ++
    optionalMember "custom_fill" .string options.customFill

def PlainShape.members (shape : PlainShape) : List (String × Json) :=
  ("type", .string shape.kind.name) ::
    match shape with
    | .list element | .set element => [("element_type", .string element.name)]
    | .string | .int | .bool | .object => []

mutual
def Attribute.toJson : Attribute → Json
  | .plain options shape => .object (options.members ++ shape.members)
  | .nested options children model =>
      .object (options.members ++
        [("type", .string AttributeKind.setNested.name),
          ("attributes", .array (Attribute.listToJson children)), ("model", .string model)])

def Attribute.listToJson : List Attribute → List Json
  | [] => []
  | declared :: rest => declared.toJson :: Attribute.listToJson rest
end

def ReadStrategy.toJson : ReadStrategy → Json
  | .simple => .object [("kind", .string "simple")]
  | .paginate hooks =>
      .object
        [("kind", .string "paginate"), ("read_model", .ofOption .string hooks.itemModel),
          ("read_init_loop", .ofOption .string hooks.initLoop),
          ("read_pre_iterate", .ofOption .string hooks.preIterate),
          ("read_post_iterate", .ofOption .string hooks.postIterate)]

def DataSourceApi.toJson (api : DataSourceApi) : Json :=
  .object
    [("model", .string api.model), ("read_method", .string api.readMethod),
      ("read_request_attributes", .strings api.readArguments),
      ("read_strategy", api.strategy.toJson)]

def DataSource.toJson (declared : DataSource) : Json :=
  .object
    [("name", .string declared.name), ("description", .string declared.description),
      ("api", declared.api.toJson),
      ("generate", .object [("model_fillers", .bool declared.modelFillers)]),
      ("attributes", .array (Attribute.listToJson declared.attributes))]

def Operation.toJson (operation : Operation) : Json :=
  .object
    [("method", .string operation.method), ("request_attributes", .strings operation.arguments)]

def ListRead.toJson (read : ListRead) : Json :=
  .object
    [("read_model", .ofOption .string read.itemModel), ("cursor_field", .string read.cursorField),
      ("has_more_field", .string read.hasMoreField),
      ("page_limit", .integer read.pageLimit.toNat),
      ("retry_attempts", .integer read.retryAttempts.toNat),
      ("retry_delay_secs", .integer read.retryDelaySeconds.toNat),
      ("init_loop", .ofOption .string read.initLoop),
      ("pre_iterate", .ofOption .string read.preIterate),
      ("post_iterate", .ofOption .string read.postIterate)]

def ResourceApi.toJson (api : ResourceApi) : Json :=
  .object
    [("model", .ofOption .string api.model), ("create", api.create.toJson),
      ("read", api.read.toJson), ("paginated_read", .ofOption ListRead.toJson api.listRead),
      ("update", .ofOption Operation.toJson api.update),
      ("delete", .ofOption Operation.toJson api.delete)]

def Resource.toJson (declared : Resource) : Json :=
  .object
    [("name", .string declared.name), ("description", .string declared.description),
      ("api", declared.api.toJson),
      ("import_state_attributes", .strings declared.importAttributes),
      ("attributes", .array (Attribute.listToJson declared.attributes))]

def Definitions.toJson (definitions : Definitions) : Json :=
  .object
    [("data_sources", .array (definitions.dataSources.map (·.toJson))),
      ("resources", .array (definitions.resources.map (·.toJson)))]

end ProviderForge

import ProviderForge.Definition.Entity
import ProviderForge.Document.Request

/-!
Definitions out of documents. Members of objects come in any order, absent optional ones take
their defaults, and members that no record knows are passed over.
-/

namespace ProviderForge

open Document

namespace Requiredness

def ofDocument (origin : Origin) (document : Document) : Except Fault Requiredness := do
  let name ← choice origin (all.map name) document
  return (ofName? name).getD default

end Requiredness

def ElementType.ofDocument (origin : Origin) (document : Document) :
    Except Fault ElementType := do
  let _ ← choice origin [ElementType.string.name] document
  return .string

def SourceForm.ofDocument (origin : Origin) (document : Document) :
    Except Fault SourceForm := do
  let _ ← choice origin [SourceForm.time.name] document
  return .time

namespace Attribute

/-- The members of an attribute as far as they have been read. -/
structure Draft where
  name : Option String := none
  description : Option String := none
  deprecation : Option String := none
  requiredness : Option Requiredness := none
  sensitive : Bool := false
  validators : List String := []
  planModifiers : List String := []
  nullable : Bool := false
  source : Option (List String) := none
  sourceForm : Option SourceForm := none
  destination : Option (List String) := none
  skipFill : Bool := false
  customFill : Option String := none
  /-- Copies of the other members, last first. They tell the shape. -/
  others : List (Entry Document) := []

namespace Draft

def shape : Shape where
  name := "Attribute"
  fields :=
    [.required "name", .required "description", .defaulted "deprecation_message",
      .required "computed_optional_required", .defaulted "sensitive", .defaulted "validators",
      .defaulted "plan_modifiers", .defaulted "nullable", .defaulted "source_attribute",
      .defaulted "source_type", .defaulted "destination_attribute", .defaulted "skip_fill",
      .defaulted "custom_fill"]
  isOpen := true

def take (origin : Origin) (draft : Draft) (name : String) (value : Document) :
    Except Fault Draft :=
  match name with
  | "name" => do return { draft with name := some (← value.string) }
  | "description" => do return { draft with description := some (← value.string) }
  | "deprecation_message" => do
      return { draft with deprecation := ← value.optionalString }
  | "computed_optional_required" => do
      return { draft with requiredness := some (← Requiredness.ofDocument origin value) }
  | "sensitive" => do return { draft with sensitive := ← value.flag }
  | "validators" => do return { draft with validators := ← value.strings }
  | "plan_modifiers" => do return { draft with planModifiers := ← value.strings }
  | "nullable" => do return { draft with nullable := ← value.flag }
  | "source_attribute" => do return { draft with source := ← value.optionalStrings }
  | "source_type" => do
      return { draft with sourceForm := ← value.optionally (SourceForm.ofDocument origin) }
  | "destination_attribute" => do
      return { draft with destination := ← value.optionalStrings }
  | "skip_fill" => do return { draft with skipFill := ← value.flag }
  | "custom_fill" => do return { draft with customFill := ← value.optionalString }
  | _ => return draft

def keep (draft : Draft) (entry : Entry Document) : Except Fault Draft := do
  let key ← match entry.key.string with
    | .ok name => pure (Document.ofAtom (.string name))
    | .error _ => entry.key.copied
  let value ← entry.value.copied
  return { draft with others := ⟨key, value, none, none⟩ :: draft.others }

def options (draft : Draft) : Except Fault AttributeOptions := do
  let name ← present "name" draft.name
  let description ← present "description" draft.description
  let requiredness ← present "computed_optional_required" draft.requiredness
  return {
    name, description, requiredness
    deprecation := draft.deprecation
    sensitive := draft.sensitive
    validators := draft.validators
    planModifiers := draft.planModifiers
    nullable := draft.nullable
    source := draft.source
    sourceForm := draft.sourceForm
    destination := draft.destination
    skipFill := draft.skipFill
    customFill := draft.customFill }

end Draft

def elementAssembly : Assembly (Option ElementType) ElementType where
  shape := ⟨"AttributeType", [.defaulted "element_type"], false⟩
  take _ _ value := some <$> ElementType.ofDocument .copy value
  complete draft := .ok (draft.getD .string)

structure NestedDraft where
  attributes : Option (List Attribute) := none
  model : Option String := none

def nestedAssembly (readChildren : Document → Except Fault (List Attribute)) :
    Assembly NestedDraft (List Attribute × String) where
  shape := ⟨"AttributeType", [.required "attributes", .required "model"], false⟩
  take draft name value :=
    match name with
    | "attributes" => do return { draft with attributes := some (← readChildren value) }
    | _ => do return { draft with model := some (← value.string) }
  complete draft := do
    let attributes ← present "attributes" draft.attributes
    let model ← present "model" draft.model
    return (attributes, model)

/-- Makes an attribute of its options and of the other members, which are copies. -/
def ofParts (readChildren : Document → Except Fault (List Attribute))
    (options : AttributeOptions) (others : List (Entry Document)) :
    Except Fault Attribute := do
  let (chosen, members) ← splitChoice .copy "type" (AttributeKind.all.map (·.name)) others none
  let name ← present "type" chosen
  let members := Document.mapping none members (.closed none) none
  match (AttributeKind.ofName? name).getD default with
  | .string => return plain options .string
  | .int => return plain options .int
  | .bool => return plain options .bool
  | .object => return plain options .object
  | .list => return plain options (.list (← elementAssembly.read .copy none members))
  | .set => return plain options (.set (← elementAssembly.read .copy none members))
  | .setNested => do
      let (children, model) ← (nestedAssembly readChildren).read .copy {} members
      return nested options children model

def assembly (origin : Origin) (readChildren : Document → Except Fault (List Attribute)) :
    Assembly Draft Attribute where
  shape := Draft.shape
  take := Draft.take origin
  pass := Draft.keep
  complete draft := do
    let options ← draft.options
    ofParts readChildren options draft.others.reverse

/-- Attributes nest no deeper than the document that declares them. -/
def ofDocumentWithin (fuel : Nat) (origin : Origin) (document : Document) :
    Except Fault Attribute :=
  match fuel with
  | 0 => .error (document.mismatch Draft.shape.expected)
  | fuel + 1 =>
      (assembly origin (Document.list (ofDocumentWithin fuel .copy))).read origin {} document

def ofDocument (origin : Origin) (document : Document) : Except Fault Attribute :=
  ofDocumentWithin (document.depth + 1) origin document

def listOfDocument (origin : Origin) : Document → Except Fault (List Attribute) :=
  Document.list (ofDocument origin)

end Attribute

namespace PageHooks

def assembly : Assembly PageHooks PageHooks where
  shape := ⟨"PaginateOptions",
    [.defaulted "read_model", .defaulted "read_init_loop", .defaulted "read_pre_iterate",
      .defaulted "read_post_iterate"], false⟩
  take draft name value :=
    match name with
    | "read_model" => do return { draft with itemModel := ← value.optionalString }
    | "read_init_loop" => do return { draft with initLoop := ← value.optionalString }
    | "read_pre_iterate" => do return { draft with preIterate := ← value.optionalString }
    | _ => do return { draft with postIterate := ← value.optionalString }
  complete := .ok

end PageHooks

namespace ReadStrategy

def ofDocument (origin : Origin) (document : Document) : Except Fault ReadStrategy := do
  let (name, content) ←
    taggedChoice origin "ReadStrategy" "kind" ["simple", "paginate"] document
  if name = "paginate" then
    return paginate (← PageHooks.assembly.read .copy {} content)
  else do
    checkPlainChoice content
    return simple

end ReadStrategy

namespace DataSourceApi

structure Draft where
  model : Option String := none
  readMethod : Option String := none
  readArguments : List String := []
  strategy : ReadStrategy := .simple

def assembly (origin : Origin) : Assembly Draft DataSourceApi where
  shape := ⟨"DataSourceApi",
    [.required "model", .required "read_method", .defaulted "read_request_attributes",
      .defaulted "read_strategy"], false⟩
  take draft name value :=
    match name with
    | "model" => do return { draft with model := some (← value.string) }
    | "read_method" => do return { draft with readMethod := some (← value.string) }
    | "read_request_attributes" => do return { draft with readArguments := ← value.strings }
    | _ => do return { draft with strategy := ← ReadStrategy.ofDocument origin value }
  complete draft := do
    let model ← present "model" draft.model
    let readMethod ← present "read_method" draft.readMethod
    return { model, readMethod, readArguments := draft.readArguments, strategy := draft.strategy }

end DataSourceApi

namespace DataSource

def optionsAssembly : Assembly Bool Bool where
  shape := ⟨"GenerateOptions", [.defaulted "model_fillers"], false⟩
  take _ _ value := value.flag
  complete := .ok

structure Draft where
  name : Option String := none
  description : Option String := none
  api : Option DataSourceApi := none
  modelFillers : Bool := false
  attributes : Option (List Attribute) := none

def assembly (origin : Origin) : Assembly Draft DataSource where
  shape := ⟨"DataSource",
    [.required "name", .required "description", .required "api", .defaulted "generate",
      .required "attributes"], false⟩
  take draft name value :=
    match name with
    | "name" => do return { draft with name := some (← value.string) }
    | "description" => do return { draft with description := some (← value.string) }
    | "api" => do
        return { draft with api := some (← (DataSourceApi.assembly origin).read origin {} value) }
    | "generate" => do
        return { draft with modelFillers := ← optionsAssembly.read origin false value }
    | _ => do
        return { draft with attributes := some (← Attribute.listOfDocument origin value) }
  complete draft := do
    let name ← present "name" draft.name
    let description ← present "description" draft.description
    let api ← present "api" draft.api
    let attributes ← present "attributes" draft.attributes
    return { name, description, api, modelFillers := draft.modelFillers, attributes }

def ofDocument (origin : Origin) : Document → Except Fault DataSource :=
  (assembly origin).read origin {}

end DataSource

namespace Operation

structure Draft where
  method : Option String := none
  arguments : List String := []

def assembly : Assembly Draft Operation where
  shape := ⟨"ApiOperation", [.required "method", .defaulted "request_attributes"], false⟩
  take draft name value :=
    match name with
    | "method" => do return { draft with method := some (← value.string) }
    | _ => do return { draft with arguments := ← value.strings }
  complete draft := do
    let method ← present "method" draft.method
    return { method, arguments := draft.arguments }

def ofDocument (origin : Origin) : Document → Except Fault Operation :=
  assembly.read origin {}

end Operation

namespace ListRead

def word32 (document : Document) : Except Fault UInt32 :=
  UInt32.ofNat <$> natural UInt32.size "u32" document

def word64 (document : Document) : Except Fault UInt64 :=
  UInt64.ofNat <$> natural UInt64.size "u64" document

def assembly : Assembly ListRead ListRead where
  shape := ⟨"PaginatedRead",
    [.defaulted "read_model", .defaulted "cursor_field", .defaulted "has_more_field",
      .defaulted "page_limit", .defaulted "retry_attempts", .defaulted "retry_delay_secs",
      .defaulted "init_loop", .defaulted "pre_iterate", .defaulted "post_iterate"], false⟩
  take draft name value :=
    match name with
    | "read_model" => do return { draft with itemModel := ← value.optionalString }
    | "cursor_field" => do return { draft with cursorField := ← value.string }
    | "has_more_field" => do return { draft with hasMoreField := ← value.string }
    | "page_limit" => do return { draft with pageLimit := ← word32 value }
    | "retry_attempts" => do return { draft with retryAttempts := ← word32 value }
    | "retry_delay_secs" => do return { draft with retryDelaySeconds := ← word64 value }
    | "init_loop" => do return { draft with initLoop := ← value.optionalString }
    | "pre_iterate" => do return { draft with preIterate := ← value.optionalString }
    | _ => do return { draft with postIterate := ← value.optionalString }
  complete := .ok

def ofDocument (origin : Origin) : Document → Except Fault ListRead :=
  assembly.read origin {}

end ListRead

namespace ResourceApi

structure Draft where
  model : Option String := none
  create : Option Operation := none
  read : Option Operation := none
  listRead : Option ListRead := none
  update : Option Operation := none
  delete : Option Operation := none

def assembly (origin : Origin) : Assembly Draft ResourceApi where
  shape := ⟨"ResourceApi",
    [.defaulted "model", .required "create", .required "read", .defaulted "paginated_read",
      .defaulted "update", .defaulted "delete"], false⟩
  take draft name value :=
    match name with
    | "model" => do return { draft with model := ← value.optionalString }
    | "create" => do return { draft with create := some (← Operation.ofDocument origin value) }
    | "read" => do return { draft with read := some (← Operation.ofDocument origin value) }
    | "paginated_read" => do
        return { draft with listRead := ← value.optionally (ListRead.ofDocument origin) }
    | "update" => do
        return { draft with update := ← value.optionally (Operation.ofDocument origin) }
    | _ => do
        return { draft with delete := ← value.optionally (Operation.ofDocument origin) }
  complete draft := do
    let create ← present "create" draft.create
    let read ← present "read" draft.read
    return {
      model := draft.model
      create, read
      listRead := draft.listRead
      update := draft.update
      delete := draft.delete }

end ResourceApi

namespace Resource

structure Draft where
  name : Option String := none
  description : Option String := none
  api : Option ResourceApi := none
  importAttributes : List String := []
  attributes : Option (List Attribute) := none

def assembly (origin : Origin) : Assembly Draft Resource where
  shape := ⟨"Resource",
    [.required "name", .required "description", .required "api",
      .defaulted "import_state_attributes", .required "attributes"], false⟩
  take draft name value :=
    match name with
    | "name" => do return { draft with name := some (← value.string) }
    | "description" => do return { draft with description := some (← value.string) }
    | "api" => do
        return { draft with api := some (← (ResourceApi.assembly origin).read origin {} value) }
    | "import_state_attributes" => do
        return { draft with importAttributes := ← value.strings }
    | _ => do
        return { draft with attributes := some (← Attribute.listOfDocument origin value) }
  complete draft := do
    let name ← present "name" draft.name
    let description ← present "description" draft.description
    let api ← present "api" draft.api
    let attributes ← present "attributes" draft.attributes
    return { name, description, api, importAttributes := draft.importAttributes, attributes }

def ofDocument (origin : Origin) : Document → Except Fault Resource :=
  (assembly origin).read origin {}

end Resource

namespace Definitions

def assembly (origin : Origin) : Assembly Definitions Definitions where
  shape := ⟨"Definitions", [.defaulted "data_sources", .defaulted "resources"], false⟩
  take draft name value :=
    match name with
    | "data_sources" => do
        return { draft with dataSources := ← Document.list (DataSource.ofDocument origin) value }
    | _ => do return { draft with resources := ← Document.list (Resource.ofDocument origin) value }
  complete := .ok

def ofDocument (origin : Origin) : Document → Except Fault Definitions :=
  (assembly origin).read origin {}

end Definitions

end ProviderForge

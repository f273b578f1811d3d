import ProviderForge.Code.Build
import ProviderForge.Definition.Attribute

namespace ProviderForge

def ElementType.code : ElementType → Code
  | .string => Code.word "String"

def Requiredness.flags : Requiredness → Code
  | .required => Code.entry "required" (Code.word "true")
  | .optional => Code.entry "optional" (Code.word "true")
  | .computed => Code.entry "computed" (Code.word "true")
  | .computedOptional =>
      Code.entry "optional" (Code.word "true") ++ Code.entry "computed" (Code.word "true")

namespace Schema

open Code

/-- A vector of spliced expressions; none at all when there is no expression. -/
def expressions (fieldName context : String) (fragments : List String) :
    Except Failure Code := do
  if fragments.isEmpty then return []
  let codes ← ofFragments context fragments
  return entry fieldName (word "vec" ++ mark '!' ++ brackets (listed codes))

def valueFamily (family : String) : Code :=
  defaultOf (path ["supertypes", family])

def collectionFamily (family : String) (element : Code) : Code :=
  defaultOf (path ["supertypes", family] ++ colons ++ angled element)

def entryType : AttributeKind → Code
  | .string => path ["schema", "StringAttribute"]
  | .int => path ["schema", "Int64Attribute"]
  | .bool => path ["schema", "BoolAttribute"]
  | .list => path ["schema", "ListAttribute"]
  | .set => path ["schema", "SetAttribute"]
  | .setNested => path ["schema", "SetNestedAttribute"]
  | .object => path ["schema", "ObjectAttribute"]

def plainType : PlainShape → Code
  | .string => valueFamily "StringType"
  | .int => valueFamily "Int64Type"
  | .bool => valueFamily "BoolType"
  | .list element => collectionFamily "ListTypeOf" element.code
  | .set element => collectionFamily "SetTypeOf" element.code
  | .object => valueFamily "ObjectType"

def nestedType (child : Identifier) : Code :=
  collectionFamily "SetNestedObjectTypeOf" (ident child)

def nestedObject (members : Code) : Code :=
  entry "nested_object"
    (path ["schema", "NestedAttributeObject"] ++ braces (entry "attributes" members))

def assemble (declared : Attribute) (validators planModifiers customType nested : Code) : Code :=
  let options := declared.options
  entryType declared.kind ++ braces
    (entry "markdown_description" (ownedText declared.markdownDescription) ++
      (match options.deprecation with
        | some notice => entry "deprecation_message" (call (word "Some") (ownedText notice))
        | none => []) ++
      options.requiredness.flags ++
      (if options.sensitive then entry "sensitive" (word "true") else []) ++
      entry "custom_type" customType ++ nested ++ validators ++ planModifiers ++
      remainingDefaults)

def member (declared : Attribute) (value : Code) : Code :=
  parens (ownedText declared.name ++ mark ',' ++ invoke value "into" [])

def table (members : List Code) : Code :=
  call (path ["HashMap", "from"]) (brackets (listed members))

def validatorsCode (options : AttributeOptions) : Except Failure Code :=
  expressions "validators" s!"validators of '{options.name}'" options.validators

def planModifiersCode (options : AttributeOptions) : Except Failure Code :=
  expressions "plan_modifiers" s!"plan modifiers of '{options.name}'" options.planModifiers

end Schema

open Schema

mutual
/-- The schema entry of an attribute of the model `parent`, from which the names of nested
types are derived. -/
def Attribute.schemaEntry (parent : String) : Attribute → Except Failure Code
  | .plain options shape => do
      let validators ← validatorsCode options
      let planModifiers ← planModifiersCode options
      return assemble (.plain options shape) validators planModifiers (plainType shape) []
  | .nested options children model => do
      let validators ← validatorsCode options
      let planModifiers ← planModifiersCode options
      let childName := Name.nestedType parent options.name
      let child ← Identifier.type childName
      let members ← Attribute.schemaMembers childName children
      return assemble (.nested options children model) validators planModifiers
        (Schema.nestedType child) (nestedObject (table members))

def Attribute.schemaMembers (parent : String) : List Attribute → Except Failure (List Code)
  | [] => return []
  | declared :: rest => do
      let value ← declared.schemaEntry parent
      let members ← Attribute.schemaMembers parent rest
      return member declared value :: members
end

def Attribute.schemaTable (parent : String) (siblings : List Attribute) :
    Except Failure Code := do
  return table (← Attribute.schemaMembers parent siblings)

end ProviderForge

namespace ProviderForge

/-- How an attribute takes part in configuration and state. -/
inductive Requiredness
  | required
  | optional
  | computed
  | computedOptional
deriving DecidableEq, Repr, Inhabited

namespace Requiredness

def all : List Requiredness :=
  [.required, .optional, .computed, .computedOptional]

def name : Requiredness → String
  | .required => "required"
  | .optional => "optional"
  | .computed => "computed"
  | .computedOptional => "computed_optional"

def ofName? (text : String) : Option Requiredness :=
  all.find? (·.name == text)

def isRequired : Requiredness → Bool
  | .required => true
  | _ => false

def isOptional : Requiredness → Bool
  | .optional | .computedOptional => true
  | _ => false

def isComputed : Requiredness → Bool
  | .computed | .computedOptional => true
  | _ => false

@[simp] theorem ofName?_name (requiredness : Requiredness) :
    ofName? requiredness.name = some requiredness := by
  cases requiredness <;> rfl

end Requiredness

inductive ElementType
  | string
deriving DecidableEq, Repr, Inhabited

def ElementType.name : ElementType → String
  | .string => "string"

/-- How the remote record represents a value. -/
inductive SourceForm
  | time
deriving DecidableEq, Repr, Inhabited

def SourceForm.name : SourceForm → String
  | .time => "time"

inductive AttributeKind
  | string
  | int
  | bool
  | list
  | set
  | setNested
  | object
deriving DecidableEq, Repr, Inhabited

namespace AttributeKind

def all : List AttributeKind :=
  [.string, .int, .bool, .list, .set, .setNested, .object]

def name : AttributeKind → String
  | .string => "string"
  | .int => "int"
  | .bool => "bool"
  | .list => "list"
  | .set => "set"
  | .setNested => "set_nested"
  | .object => "object"

def ofName? (text : String) : Option AttributeKind :=
  all.find? (·.name == text)

@[simp] theorem ofName?_name (kind : AttributeKind) : ofName? kind.name = some kind := by
  cases kind <;> rfl

/-- Only a primitive can be passed to a remote operation. -/
def isPrimitive : AttributeKind → Bool
  | .string | .int | .bool => true
  | .list | .set | .setNested | .object => false

end AttributeKind

structure AttributeOptions where
  name : String
  description : String
  deprecation : Option String := none
  requiredness : Requiredness := .computed
  sensitive : Bool := false
  /-- Validator expressions, spliced as they are. -/
  validators : List String := []
  planModifiers : List String := []
  nullable : Bool := false
  /-- The path read from the remote record. Without one the field of the attribute's own
  name is read; an empty one reads the record itself. -/
  source : Option (List String) := none
  sourceForm : Option SourceForm := none
  destination : Option (List String) := none
  skipFill : Bool := false
  /-- A statement that takes the place of the generated conversion. -/
  customFill : Option String := none
deriving DecidableEq, Repr, Inhabited

inductive PlainShape
  | string
  | int
  | bool
  | list (element : ElementType)
  | set (element : ElementType)
  | object
deriving DecidableEq, Repr, Inhabited

def PlainShape.kind : PlainShape → AttributeKind
  | .string => .string
  | .int => .int
  | .bool => .bool
  | .list _ => .list
  | .set _ => .set
  | .object => .object

/-- An attribute is plain, or a set of nested records that are filled from the remote type
`model`. -/
inductive Attribute
  | plain (options : AttributeOptions) (shape : PlainShape)
  | nested (options : AttributeOptions) (children : List Attribute) (model : String)
deriving Repr, Inhabited, BEq

namespace Attribute

def options : Attribute → AttributeOptions
  | plain options _ => options
  | nested options _ _ => options

@[simp] theorem options_plain (options : AttributeOptions) (shape : PlainShape) :
    (plain options shape).options = options := rfl

@[simp] theorem options_nested (options : AttributeOptions) (children : List Attribute)
    (model : String) : (nested options children model).options = options := rfl

def name (declared : Attribute) : String :=
  declared.options.name

def kind : Attribute → AttributeKind
  | plain _ shape => shape.kind
  | nested _ _ _ => .setNested

def children : Attribute → List Attribute
  | plain _ _ => []
  | nested _ children _ => children

def withOptions (change : AttributeOptions → AttributeOptions) : Attribute → Attribute
  | plain options shape => plain (change options) shape
  | nested options children model => nested (change options) children model

@[simp] theorem options_withOptions (change : AttributeOptions → AttributeOptions)
    (declared : Attribute) :
    (declared.withOptions change).options = change declared.options := by
  cases declared <;> rfl

@[simp] theorem kind_withOptions (change : AttributeOptions → AttributeOptions)
    (declared : Attribute) : (declared.withOptions change).kind = declared.kind := by
  cases declared <;> rfl

/-- The description as the schema shows it, with the deprecation notice behind it. -/
def markdownDescription (declared : Attribute) : String :=
  match declared.options.deprecation with
  | some notice => s!"{declared.options.description} **Deprecated** {notice}"
  | none => declared.options.description

/-! Building attributes. Each step changes one option of a computed attribute. -/

def ofShape (name description : String) (shape : PlainShape) : Attribute :=
  plain { name := name, description := description } shape

def string (name description : String) : Attribute :=
  ofShape name description .string

def int (name description : String) : Attribute :=
  ofShape name description .int

def bool (name description : String) : Attribute :=
  ofShape name description .bool

def list (name description : String) : Attribute :=
  ofShape name description (.list .string)

def set (name description : String) : Attribute :=
  ofShape name description (.set .string)

def object (name description : String) : Attribute :=
  ofShape name description .object

def setNested (name description model : String) (children : List Attribute) : Attribute :=
  nested { name := name, description := description } children model

def withRequiredness (requiredness : Requiredness) : Attribute → Attribute :=
  withOptions fun options => { options with requiredness := requiredness }

def required : Attribute → Attribute :=
  withRequiredness .required

def optional : Attribute → Attribute :=
  withRequiredness .optional

def computed : Attribute → Attribute :=
  withRequiredness .computed

def computedOptional : Attribute → Attribute :=
  withRequiredness .computedOptional

def sensitive : Attribute → Attribute :=
  withOptions fun options => { options with sensitive := true }

def nullable : Attribute → Attribute :=
  withOptions fun options => { options with nullable := true }

def deprecated (notice : String) : Attribute → Attribute :=
  withOptions fun options => { options with deprecation := some notice }

def validator (expression : String) : Attribute → Attribute :=
  withOptions fun options => { options with validators := options.validators ++ [expression] }

def planModifier (expression : String) : Attribute → Attribute :=
  withOptions fun options =>
    { options with planModifiers := options.planModifiers ++ [expression] }

def source (path : List String) : Attribute → Attribute :=
  withOptions fun options => { options with source := some path }

def sourceForm (form : SourceForm) : Attribute → Attribute :=
  withOptions fun options => { options with sourceForm := some form }

def destination (path : List String) : Attribute → Attribute :=
  withOptions fun options => { options with destination := some path }

def skipFill : Attribute → Attribute :=
  withOptions fun options => { options with skipFill := true }

def customFill (code : String) : Attribute → Attribute :=
  withOptions fun options => { options with customFill := some code }

end Attribute

end ProviderForge

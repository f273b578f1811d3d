import ProviderForge.Code.Fill
import ProviderForge.Event

namespace ProviderForge

inductive Model where
  | node (name : String) (declaration : Code) (fill : Option Code) (nested : List Model)
deriving Inhabited

namespace Model

open Code

def name : Model → String
  | node name _ _ _ => name

def declaration : Model → Code
  | node _ declaration _ _ => declaration

def fill : Model → Option Code
  | node _ _ fill _ => fill

def nested : Model → List Model
  | node _ _ _ nested => nested

mutual
def typeNames : Model → List String
  | node name _ _ nested => name :: typeNamesOf nested

def typeNamesOf : List Model → List String
  | [] => []
  | model :: rest => model.typeNames ++ typeNamesOf rest
end

mutual
def code : Model → Code
  | node _ declaration fill nested => declaration ++ fill.getD [] ++ codeOf nested

def codeOf : List Model → Code
  | [] => []
  | model :: rest => model.code ++ codeOf rest
end

def recordDeclaration (identifier : Identifier) (fields : List Code) : Code :=
  derive ["Debug", "Clone", "Default", "PartialEq"] ++
    word "pub" ++ word "struct" ++ Code.ident identifier ++ braces (terminated fields)

/-- Nested fills and custom statements append to what a fill reports. -/
def appends (declared : Attribute) : Bool :=
  declared.options.customFill.isSome || declared.kind == .setNested

def emptyDiagnostics : Code :=
  defaultOf (path ["diag", "Diagnostics"])

def diagnosticsBinding (siblings : List Attribute) : Code :=
  if siblings.any appends then bindMutable "diags" emptyDiagnostics
  else bind (word "diags") emptyDiagnostics

def fillDeclaration (identifier : Identifier) (sourceType body : Code) : Code :=
  word "impl" ++ Code.ident identifier ++ braces
    (word "pub" ++ word "fn" ++ call (word "fill")
        (mutableReference (word "self") ++ mark ',' ++ word "data" ++ mark ':' ++
          reference sourceType) ++
      arrow ++ path ["diag", "Diagnostics"] ++ braces body)

def isFilled (declared : Attribute) : Bool :=
  !declared.options.skipFill

def compileFill (name : String) (siblings : List Attribute) (sourceType : Code) :
    Except Failure Code := do
  let identifier ← Identifier.type name
  let filled := siblings.filter isFilled
  let conversions ← filled.mapM fun declared => declared.conversion name "data" "self"
  return fillDeclaration identifier sourceType
    (diagnosticsBinding filled ++ conversions.flatten ++ word "diags")

def compileRecord (name : String) (siblings : List Attribute) (sourceType : Code)
    (fills : Bool) : Except Failure (Code × Option Code) := do
  let identifier ← Identifier.type name
  let fields ← siblings.mapM (Attribute.fieldDeclaration name)
  let fill ← if fills then some <$> compileFill name siblings sourceType else pure none
  return (recordDeclaration identifier fields, fill)

def remoteType (record : Identifier) : Code :=
  within (word "apiclient") (Code.ident record)

mutual
def compileNested (parent : String) (fills : Bool) :
    List Attribute → Traced Failure (List Model)
  | [] => return []
  | declared :: rest => do
      let first ← compileChild parent fills declared
      let others ← compileNested parent fills rest
      return first ++ others

def compileChild (parent : String) (fills : Bool) : Attribute → Traced Failure (List Model)
  | .plain _ _ => return []
  | .nested options children record => do
      let name := Name.nestedType parent options.name
      let record ← Traced.ofExcept (Identifier.type record)
      Traced.report (.compilingModel name children.length)
      let (declaration, fill) ←
        Traced.ofExcept (compileRecord name children (remoteType record) fills)
      let nested ← compileNested name fills children
      return [node name declaration fill nested]
end

/-- The model `name` of an attribute list. When `fills` is false no model of the tree has a
fill operation. -/
def compile (name : String) (siblings : List Attribute) (sourceType : Code) (fills : Bool) :
    Traced Failure Model := do
  Traced.report (.compilingModel name siblings.length)
  let (declaration, fill) ← Traced.ofExcept (compileRecord name siblings sourceType fills)
  let nested ← compileNested name fills siblings
  return node name declaration fill nested

def repeated (names : List String) : List (String × Nat) :=
  let sorted := names.eraseDups.mergeSort fun left right => decide (left ≤ right)
  (sorted.map fun name => (name, names.count name)).filter fun (_, count) => 1 < count

/-- Repeated type names are reported and left as they are. -/
def repetitionEvents (model : Model) (entity : String) : List Event :=
  (repeated model.typeNames).map fun (name, count) => .repeatedTypeName entity name count

def reportRepetitions (model : Model) (entity : String) : Traced Failure Unit :=
  Traced.reportAll (model.repetitionEvents entity)

end Model

end ProviderForge

import ProviderForge.Code.Value

namespace ProviderForge

open Code

namespace Fill

def wrapped (family constructor : String) (arguments : Code) : Code :=
  call (path ["supertypes", family, constructor]) arguments

def string (options : AttributeOptions) (origin target : Code) : Code :=
  if options.nullable then
    when (word "let" ++ call (word "Some") (word "value") ++ mark '=' ++
        invoke origin "as_ref" [])
      (assign target (wrapped "StringValue" "new_or_null" (invoke (word "value") "clone" []))) ++
    word "else" ++ braces (assign target (wrapped "StringValue" "null" []))
  else match options.sourceForm with
    | some .time =>
        assign target (wrapped "StringValue" "new" (invoke origin "to_string" []))
    | none => assign target (wrapped "StringValue" "new" (invoke origin "clone" []))

def plain (options : AttributeOptions) (origin target : Code) : PlainShape → Code
  | .string => string options origin target
  | .int => assign target (wrapped "Int64Value" "new" origin)
  | .bool => assign target (wrapped "BoolValue" "new" origin)
  | .list _ => assign target (wrapped "ListValueOf" "from_slice" (reference origin))
  | .set _ => assign target (wrapped "SetValueOf" "from_slice" (reference origin))
  | .object => assign target (wrapped "ObjectValue" "new" (invoke origin "clone" []))

def nested (child : Identifier) (origin target : Code) : Code :=
  let fillItem :=
    bindMutable "model" (defaultOf (ident child)) ++
      statement (invoke (word "diags") "append" (invoke (word "model") "fill" (word "item"))) ++
      word "model"
  let items := invoke origin "iter" []
  let models := invoke items "map" (closure (word "item") (braces fillItem))
  assign target
    (wrapped "SetNestedObjectValueOf" "from_values" (invoke models "collect" [] ++ mark ','))

end Fill

/-- The statement that fills the field of an attribute of the model `parent`. Without a path
of its own, either side uses the attribute's name. -/
def Attribute.conversion (parent : String) (declared : Attribute) (origin target : String) :
    Except Failure Code := do
  let options := declared.options
  match options.customFill with
  | some fragment => ofFragment s!"custom fill of '{options.name}'" fragment
  | none =>
      let origin ← fieldPath origin (options.source.getD [options.name])
      let target ← fieldPath target (options.destination.getD [options.name])
      match declared with
      | .plain _ shape => return Fill.plain options origin target shape
      | .nested _ _ _ => do
          let child ← Identifier.type (Name.nestedType parent options.name)
          return Fill.nested child origin target

end ProviderForge

import ProviderForge.Code.Schema

namespace ProviderForge

open Code

def PlainShape.valueType : PlainShape → Code
  | .string => path ["supertypes", "StringValue"]
  | .int => path ["supertypes", "Int64Value"]
  | .bool => path ["supertypes", "BoolValue"]
  | .list element => path ["supertypes", "ListValueOf"] ++ angled element.code
  | .set element => path ["supertypes", "SetValueOf"] ++ angled element.code
  | .object => path ["supertypes", "ObjectValue"]

namespace Attribute

def valueType (parent : String) : Attribute → Except Failure Code
  | .plain _ shape => return shape.valueType
  | .nested options _ _ => do
      let child ← Identifier.type (Name.nestedType parent options.name)
      return path ["supertypes", "SetNestedObjectValueOf"] ++ angled (Code.ident child)

def extractor? : AttributeKind → Option String
  | .string => some "value_string"
  | .int => some "value_int64"
  | .bool => some "value_bool"
  | _ => none

def extraction (declared : Attribute) (origin : String) : Except Failure Code := do
  let value ← fieldPath origin [declared.name]
  match extractor? declared.kind with
  | some method => return invoke value method []
  | none => throw (.notPrimitive declared.name declared.kind.name)

def fieldDeclaration (parent : String) (declared : Attribute) : Except Failure Code := do
  let identifier ← Identifier.field declared.name
  let valueType ← declared.valueType parent
  return attributeMark (word "doc" ++ mark '=' ++ text (" " ++ declared.markdownDescription)) ++
    word "pub" ++ Code.ident identifier ++ mark ':' ++ valueType

end Attribute

end ProviderForge

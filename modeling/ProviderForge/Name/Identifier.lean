import ProviderForge.Failure
import ProviderForge.Name.Words
import ProviderForge.Token.Basic

namespace ProviderForge

open Text

namespace Name

/-- Keywords that are written as raw identifiers. -/
def rawKeywords : List String :=
  ["abstract", "as", "async", "await", "become", "box", "break", "const", "continue", "do",
    "dyn", "else", "enum", "extern", "false", "final", "fn", "for", "gen", "if", "impl", "in",
    "let", "loop", "macro", "match", "mod", "move", "mut", "override", "priv", "pub", "ref",
    "return", "static", "struct", "trait", "true", "try", "type", "typeof", "unsafe",
    "unsized", "use", "virtual", "where", "while", "yield"]

/-- Keywords that are no identifiers, not even raw ones. -/
def reserved : List String :=
  ["self", "Self", "super", "crate", "_"]

def isKeyword (name : String) : Bool :=
  rawKeywords.contains name

def canStart (character : Char) : Bool :=
  isAsciiLetter character || character == '_'

def canContinue (character : Char) : Bool :=
  isAsciiLetter character || isAsciiDigit character || character == '_'

def fault? (name : String) : Option IdentifierFault :=
  match name.toList with
  | [] => some .empty
  | first :: rest =>
      if !canStart first then some .badStart
      else if !rest.all canContinue then some .badCharacter
      else if reserved.contains name then some .reserved
      else none

def validate (name : String) : Except Failure Unit :=
  match fault? name with
  | some fault => .error (.invalidIdentifier name fault)
  | none => .ok ()

def nestedType (parent member : String) : String :=
  parent ++ upperCamel member ++ "Item"

def dataSourceType (entity : String) : String :=
  upperCamel entity ++ "DataSource"

def dataSourceModel (entity : String) : String :=
  upperCamel entity ++ "DataSourceModel"

def resourceType (entity : String) : String :=
  upperCamel entity ++ "Resource"

def resourceModel (entity : String) : String :=
  upperCamel entity ++ "ResourceModel"

def dataSourceModule (entity : String) : String :=
  "data_source_" ++ entity

def resourceModule (entity : String) : String :=
  "resource_" ++ entity

end Name

/-- A usable identifier; its text carries the raw mark where it needs one. -/
structure Identifier where
  text : String
deriving DecidableEq, Repr

namespace Identifier

def token (identifier : Identifier) : Token :=
  .ident identifier.text

def field (name : String) : Except Failure Identifier := do
  Name.validate name
  if Name.isKeyword name then return ⟨"r#" ++ name⟩
  else return ⟨name⟩

/-- The identifier of a type, which has no raw form. -/
def type (name : String) : Except Failure Identifier := do
  Name.validate name
  if Name.isKeyword name then throw (.invalidIdentifier name .keywordType)
  else return ⟨name⟩

def method (operation : String) : Except Failure Identifier :=
  field (Name.snake operation)

def parameters (operation : String) : Except Failure Identifier :=
  type (Name.upperCamel operation ++ "Params")

end Identifier

end ProviderForge

import ProviderForge.Code.ClientCall
import ProviderForge.Definition.Entity

namespace ProviderForge

def firstRepeated? (seen : List String) : List String → Option String
  | [] => none
  | name :: rest => if seen.contains name then some name else firstRepeated? (name :: seen) rest

def checkUnique (kind : String) (names : List String) : Except Failure Unit :=
  match firstRepeated? [] names with
  | some name => .error (.duplicateEntity kind name)
  | none => .ok ()

mutual
/-- Attribute names are identifiers and differ from their siblings', at every level. `seen`
holds the names of the siblings before. -/
def Attribute.checkSiblings (entity : String) (seen : List String) :
    List Attribute → Except Failure Unit
  | [] => .ok ()
  | declared :: rest => do
      let _ ← Identifier.field declared.name
      if seen.contains declared.name then throw (.duplicateAttribute entity declared.name)
      declared.checkChildren entity
      Attribute.checkSiblings entity (declared.name :: seen) rest

def Attribute.checkChildren (entity : String) : Attribute → Except Failure Unit
  | .plain _ _ => .ok ()
  | .nested _ children _ => Attribute.checkSiblings entity [] children
end

def Attribute.resolve (entity context : String) (siblings : List Attribute)
    (requested : String) : Except Failure Attribute :=
  match ClientCall.lookup? siblings requested with
  | some declared => .ok declared
  | none => .error (.unknownAttribute entity requested context)

/-- Requested attributes exist at the top level and are primitive. -/
def Attribute.checkRequest (entity context : String) (siblings : List Attribute)
    (requested : List String) : Except Failure Unit :=
  requested.forM fun name => do
    let declared ← Attribute.resolve entity context siblings name
    if declared.kind.isPrimitive then return ()
    else throw (.notPrimitive name declared.kind.name)

def DataSource.check (declared : DataSource) : Except Failure Unit := do
  Name.validate declared.name
  Attribute.checkSiblings declared.name [] declared.attributes
  Attribute.checkRequest declared.name "read request" declared.attributes
    declared.api.readArguments

namespace Resource

def requests (declared : Resource) : List (String × Operation) :=
  let api := declared.api
  [("create request", api.create), ("read request", api.read)] ++
    (api.update.map ("update request", ·)).toList ++
    (api.delete.map ("delete request", ·)).toList

def check (declared : Resource) : Except Failure Unit := do
  Name.validate declared.name
  Attribute.checkSiblings declared.name [] declared.attributes
  declared.requests.forM fun (context, operation) =>
    Attribute.checkRequest declared.name context declared.attributes operation.arguments
  declared.importAttributes.forM fun requested => do
    let _ ← Attribute.resolve declared.name "import state" declared.attributes requested

end Resource

namespace Definitions

def checkNames (definitions : Definitions) : Except Failure Unit := do
  checkUnique "data source" (definitions.dataSources.map (·.name))
  checkUnique "resource" (definitions.resources.map (·.name))

def check (definitions : Definitions) : Except Failure Unit := do
  definitions.checkNames
  definitions.dataSources.forM DataSource.check
  definitions.resources.forM Resource.check

end Definitions

end ProviderForge

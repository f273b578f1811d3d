import ProviderForge.Code.Lifecycle
import ProviderForge.Definition.Entity

namespace ProviderForge.Registry

open Code

def sortedNames (names : List String) : List String :=
  names.mergeSort fun left right => decide (left ≤ right)

def constructor (moduleName typeName : String) : Except Failure Code := do
  let moduleIdentifier ← Identifier.field moduleName
  let typeIdentifier ← Identifier.type typeName
  return within (within (within (word "super") (ident moduleIdentifier)) (ident typeIdentifier))
    (word "new")

def resourceConstructor (entity : String) : Except Failure Code :=
  constructor (Name.resourceModule entity) (Name.resourceType entity)

def dataSourceConstructor (entity : String) : Except Failure Code :=
  constructor (Name.dataSourceModule entity) (Name.dataSourceType entity)

def table (tableName role traitName : String) (constructors : List Code) : Code :=
  word "pub" ++ word "static" ++ word tableName ++ mark ':' ++
    reference (brackets (call (word "fn") [] ++ arrow ++ Lifecycle.boxedTrait role traitName)) ++
    mark '=' ++ statement (reference (brackets (terminated constructors)))

def code (definitions : Definitions) : Except Failure Code := do
  let resources ←
    (sortedNames (definitions.resources.map (·.name))).mapM resourceConstructor
  let dataSources ←
    (sortedNames (definitions.dataSources.map (·.name))).mapM dataSourceConstructor
  return statement (word "use" ++ path ["super", "prelude"] ++ colons ++ mark '*') ++
    table "AUTO_GENERATED_RESOURCES" "resource" "Resource" resources ++
    table "AUTO_GENERATED_DATA_SOURCES" "datasource" "DataSource" dataSources

end ProviderForge.Registry

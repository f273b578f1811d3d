import ProviderForge.Code.DataSource
import ProviderForge.Code.Registry
import ProviderForge.Code.Resource
import ProviderForge.Definition.Check

namespace ProviderForge

inductive Task
  | dataSource (declared : DataSource)
  | resource (declared : Resource)
  | registry (definitions : Definitions)
deriving Repr, Inhabited, BEq

namespace Task

def registryModule : String := "provider_gen"

def moduleName : Task → String
  | dataSource declared => Name.dataSourceModule declared.name
  | resource declared => Name.resourceModule declared.name
  | registry _ => registryModule

/-- The code of the task's file. Entities are checked first. -/
def code : Task → Traced Failure Code
  | dataSource declared => do
      Traced.ofExcept declared.check
      declared.code
  | resource declared => do
      Traced.ofExcept declared.check
      declared.code
  | registry definitions => Traced.ofExcept (Registry.code definitions)

end Task

namespace Definitions

def isSelected (filter : Option String) (name : String) : Bool :=
  match filter with
  | some selected => selected == name
  | none => true

def selection (nameOf : α → String) (filter : Option String) (entities : List α) : List α :=
  (entities.filter (isSelected filter ∘ nameOf)).mergeSort
    fun left right => decide (nameOf left ≤ nameOf right)

def plan (definitions : Definitions) (filter : Option String) : Except Failure (List Task) := do
  definitions.checkNames
  let dataSources := selection DataSource.name filter definitions.dataSources
  let resources := selection Resource.name filter definitions.resources
  match filter with
  | some name =>
      if dataSources.isEmpty && resources.isEmpty then
        throw (.invalidConfiguration s!"No data source or resource named '{name}'")
  | none => pure ()
  return dataSources.map .dataSource ++ resources.map .resource ++ [.registry definitions]

end Definitions

end ProviderForge

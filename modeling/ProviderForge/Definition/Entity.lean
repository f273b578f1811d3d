import ProviderForge.Definition.Attribute

namespace ProviderForge

/-- Code spliced into the loop of a paginated read, and the type of its elements. -/
structure PageHooks where
  itemModel : Option String := none
  initLoop : Option String := none
  preIterate : Option String := none
  /-- Runs after the cursor has advanced. -/
  postIterate : Option String := none
deriving DecidableEq, Repr, Inhabited

/-- How a data source reads its records: one round trip, or page after page. -/
inductive ReadStrategy
  | simple
  | paginate (hooks : PageHooks)
deriving DecidableEq, Repr, Inhabited

structure DataSourceApi where
  /-- The remote record that the model is filled from. -/
  model : String
  readMethod : String
  /-- Top-level attributes passed to the read operation, in order. -/
  readArguments : List String := []
  strategy : ReadStrategy := .simple
deriving DecidableEq, Repr, Inhabited

structure DataSource where
  name : String
  description : String
  api : DataSourceApi
  modelFillers : Bool := false
  attributes : List Attribute
deriving Repr, Inhabited, BEq

structure Operation where
  method : String
  arguments : List String := []
deriving DecidableEq, Repr, Inhabited

/-- Reading a resource by listing pages until an item matches, and trying again. -/
structure ListRead where
  itemModel : Option String := none
  cursorField : String := "last_id"
  hasMoreField : String := "has_more"
  pageLimit : UInt32 := 100
  retryAttempts : UInt32 := 10
  retryDelaySeconds : UInt64 := 5
  initLoop : Option String := none
  preIterate : Option String := none
  postIterate : Option String := none
deriving DecidableEq, Repr, Inhabited

structure ResourceApi where
  /-- The remote record; without one it has the resource's own name. -/
  model : Option String := none
  create : Operation
  /-- The direct read, or the list operation of `listRead`. -/
  read : Operation
  listRead : Option ListRead := none
  update : Option Operation := none
  delete : Option Operation := none
deriving DecidableEq, Repr, Inhabited

structure Resource where
  name : String
  description : String
  api : ResourceApi
  importAttributes : List String := []
  attributes : List Attribute
deriving Repr, Inhabited, BEq

structure Definitions where
  dataSources : List DataSource := []
  resources : List Resource := []
deriving Repr, Inhabited, BEq

end ProviderForge

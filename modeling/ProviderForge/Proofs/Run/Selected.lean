import ProviderForge.Proofs.Run.Neighbour

namespace ProviderForge

open Result

/-- The name has occurred before, and no other has before it. -/
def IsFirstRepeated (names : List String) (name : String) : Prop :=
  ∃ before after, names = before ++ name :: after ∧ name ∈ before ∧ before.Nodup

namespace Definitions

def dataSourceNames (definitions : Definitions) : List String :=
  definitions.dataSources.map (·.name)

def resourceNames (definitions : Definitions) : List String :=
  definitions.resources.map (·.name)

/-- The entities whose names the filter admits, each once, in ascending order of the names. -/
structure Selects {α : Type} (nameOf : α → String) (filter : Option String)
    (entities selected : List α) : Prop where
  mem : ∀ entity, entity ∈ selected ↔
    entity ∈ entities ∧ ∀ name, filter = some name → nameOf entity = name
  ascending : selected.Pairwise fun left right => nameOf left < nameOf right

inductive Plans (definitions : Definitions) (filter : Option String) :
    Except Failure (List Task) → Prop
  | repeatedDataSource (name : String)
      (hrepeated : IsFirstRepeated definitions.dataSourceNames name) :
      Plans definitions filter (.error (.duplicateEntity "data source" name))
  | repeatedResource (name : String) (hdataSources : definitions.dataSourceNames.Nodup)
      (hrepeated : IsFirstRepeated definitions.resourceNames name) :
      Plans definitions filter (.error (.duplicateEntity "resource" name))
  | unmatched (name : String) (hdataSources : definitions.dataSourceNames.Nodup)
      (hresources : definitions.resourceNames.Nodup) (hfilter : filter = some name)
      (hdataSource : name ∉ definitions.dataSourceNames)
      (hresource : name ∉ definitions.resourceNames) :
      Plans definitions filter
        (.error (.invalidConfiguration s!"No data source or resource named '{name}'"))
  | matched (dataSources : List DataSource) (resources : List Resource)
      (hdataSources : definitions.dataSourceNames.Nodup)
      (hresources : definitions.resourceNames.Nodup)
      (hfilter : ∀ name, filter = some name →
        name ∈ definitions.dataSourceNames ∨ name ∈ definitions.resourceNames)
      (hselectedDataSources :
        Selects DataSource.name filter definitions.dataSources dataSources)
      (hselectedResources : Selects Resource.name filter definitions.resources resources) :
      Plans definitions filter (.ok (dataSources.map .dataSource ++ resources.map .resource ++
        [.registry definitions]))

section

variable {α : Type} {nameOf : α → String} {filter : Option String} {entities : List α}

theorem Selects.unique {selected others : List α}
    (hselected : Selects nameOf filter entities selected)
    (hothers : Selects nameOf filter entities others) : selected = others := by
  have hnodup : ∀ {listed : List α},
      (listed.Pairwise fun left right => nameOf left < nameOf right) → listed.Nodup := by
    intro listed hascending
    refine hascending.imp fun {left right} hlt heq => ?_
    exact String.lt_irrefl _ (heq ▸ hlt)
  refine List.Perm.eq_of_pairwise ?_ hselected.ascending hothers.ascending ?_
  · intro left right _ _ hlt hgt
    exact absurd (String.lt_trans hlt hgt) (String.lt_irrefl _)
  · rw [List.perm_ext_iff_of_nodup (hnodup hselected.ascending) (hnodup hothers.ascending)]
    exact fun entity => (hselected.mem entity).trans (hothers.mem entity).symm

end

variable {definitions : Definitions} {filter : Option String}

end Definitions

namespace Outcome

variable {outputDirectory : String} {view : Failure → Failure} {tasks : List Task}
  {outcomes others : List Outcome}

end Outcome

namespace RunOptions

variable {tasks all : List Task}

end RunOptions

end ProviderForge

import ProviderForge.Proofs.Generated
import ProviderForge.Proofs.Run.Agreement

namespace ProviderForge

open Result ProviderForge.Tree

/-- In one position the definitions declare different entities of the same name, which the module is
generated for. -/
inductive Definitions.DiffersIn : Definitions → Definitions → String → Prop
  | dataSource (before after : List DataSource) (resources : List Resource)
      (old new : DataSource) (sameName : old.name = new.name) :
      DiffersIn ⟨before ++ old :: after, resources⟩ ⟨before ++ new :: after, resources⟩
        (Name.dataSourceModule old.name)
  | resource (dataSources : List DataSource) (before after : List Resource)
      (old new : Resource) (sameName : old.name = new.name) :
      DiffersIn ⟨dataSources, before ++ old :: after⟩ ⟨dataSources, before ++ new :: after⟩
        (Name.resourceModule old.name)

/-- The other task bears the same name, and is the same unless that is the module's. -/
def Task.AlikeBut (moduleName : String) (task other : Task) : Prop :=
  other.moduleName = task.moduleName ∧ (task.moduleName ≠ moduleName →
    ∀ outputDirectory, other.render outputDirectory = task.render outputDirectory)

section

variable {α : Type} {nameOf : α → String}

def replaced (nameOf : α → String) (new entity : α) : α :=
  if nameOf entity = nameOf new then new else entity

theorem name_replaced (new entity : α) : nameOf (replaced nameOf new entity) = nameOf entity := by
  unfold replaced
  split
  next hname => exact hname.symm
  next => rfl

theorem map_replaced {before after : List α} {old new : α} (hname : nameOf old = nameOf new)
    (hnodup : ((before ++ old :: after).map nameOf).Nodup) :
    (before ++ old :: after).map (replaced nameOf new) = before ++ new :: after := by
  have hother : ∀ entity, entity ∈ before ∨ entity ∈ after →
      replaced nameOf new entity = entity := by
    intro entity hmem
    apply if_neg
    intro hsame
    rw [← hname] at hsame
    rw [List.map_append, List.map_cons, List.nodup_append, List.nodup_cons] at hnodup
    obtain ⟨-, ⟨hafter, -⟩, hbefore⟩ := hnodup
    rcases hmem with hmem | hmem
    · exact hbefore _ (List.mem_map_of_mem hmem) _ List.mem_cons_self hsame
    · exact hafter (hsame ▸ List.mem_map_of_mem hmem)
  have hself : replaced nameOf new old = new := if_pos hname
  rw [List.map_append, List.map_cons, hself,
    List.map_congr_left fun entity hmem => hother entity (.inl hmem),
    List.map_congr_left fun entity hmem => hother entity (.inr hmem), List.map_id', List.map_id']

theorem Definitions.selection_map {change : α → α}
    (hchange : ∀ entity, nameOf (change entity) = nameOf entity) (filter : Option String)
    (entities : List α) : selection nameOf filter (entities.map change) =
      (selection nameOf filter entities).map change := by
  have hselected : (isSelected filter ∘ nameOf) ∘ change = isSelected filter ∘ nameOf := by
    funext entity
    exact congrArg (isSelected filter) (hchange entity)
  unfold selection
  rw [List.filter_map, hselected]
  refine (List.map_mergeSort fun first _ second _ => ?_).symm
  rw [hchange, hchange]

end

namespace Definitions

/-- The definitions are those with every entity changed to one of the same name, and only the
module's entity to another one. -/
structure ChangesTo (left right : Definitions) (moduleName : String)
    (dataSource : DataSource → DataSource) (resource : Resource → Resource) : Prop where
  dataSourceName : ∀ declared, (dataSource declared).name = declared.name
  resourceName : ∀ declared, (resource declared).name = declared.name
  dataSources : right.dataSources = left.dataSources.map dataSource
  resources : right.resources = left.resources.map resource
  otherDataSource : ∀ declared, Name.dataSourceModule declared.name ≠ moduleName →
    dataSource declared = declared
  otherResource : ∀ declared, Name.resourceModule declared.name ≠ moduleName →
    resource declared = declared

variable {left right : Definitions} {moduleName : String}

theorem DiffersIn.names (hdiffers : left.DiffersIn right moduleName) :
    left.dataSources.map (·.name) = right.dataSources.map (·.name) ∧
      left.resources.map (·.name) = right.resources.map (·.name) := by
  cases hdiffers with
  | dataSource before after resources old new sameName => simp [sameName]
  | resource dataSources before after old new sameName => simp [sameName]

theorem DiffersIn.checkNames (hdiffers : left.DiffersIn right moduleName) :
    left.checkNames = right.checkNames := by
  obtain ⟨hdataSources, hresources⟩ := hdiffers.names
  unfold Definitions.checkNames
  rw [hdataSources, hresources]

theorem DiffersIn.registry (hdiffers : left.DiffersIn right moduleName) :
    Registry.code left = Registry.code right := by
  obtain ⟨hdataSources, hresources⟩ := hdiffers.names
  unfold Registry.code
  rw [hdataSources, hresources]

theorem DiffersIn.changesTo (hdiffers : left.DiffersIn right moduleName)
    (hnames : left.checkNames = .ok ()) :
    ∃ dataSource resource, left.ChangesTo right moduleName dataSource resource := by
  obtain ⟨hdataSources, hresources⟩ := checkNames_ok.mp hnames
  cases hdiffers with
  | dataSource before after resources old new sameName =>
      refine ⟨replaced DataSource.name new, id, name_replaced new, fun _ => rfl,
        (map_replaced sameName hdataSources).symm, (List.map_id _).symm, ?_, fun _ _ => rfl⟩
      intro declared hother
      apply if_neg
      intro hname
      exact hother (by rw [hname, sameName])
  | resource dataSources before after old new sameName =>
      refine ⟨id, replaced Resource.name new, fun _ => rfl, name_replaced new,
        (List.map_id _).symm, (map_replaced sameName hresources).symm, fun _ _ => rfl, ?_⟩
      intro declared hother
      apply if_neg
      intro hname
      exact hother (by rw [hname, sameName])

end Definitions

def Task.change (dataSource : DataSource → DataSource) (resource : Resource → Resource)
    (definitions : Definitions) : Task → Task
  | .dataSource declared => .dataSource (dataSource declared)
  | .resource declared => .resource (resource declared)
  | .registry _ => .registry definitions

namespace Definitions

variable {left right : Definitions} {moduleName : String}

theorem ChangesTo.alike {dataSource : DataSource → DataSource} {resource : Resource → Resource}
    (hchanges : left.ChangesTo right moduleName dataSource resource)
    (hregistry : Registry.code left = Registry.code right) {filter : Option String}
    {tasks : List Task} (hplan : left.plan filter = .ok tasks) :
    ∀ task ∈ tasks, Task.AlikeBut moduleName task (task.change dataSource resource right) := by
  obtain ⟨-, rfl⟩ := plan_ok hplan
  intro task hmem
  rcases List.mem_append.mp hmem with hentity | hlast
  · rcases List.mem_append.mp hentity with hentity | hentity
    · obtain ⟨declared, -, rfl⟩ := List.mem_map.mp hentity
      refine ⟨congrArg Name.dataSourceModule (hchanges.dataSourceName declared), ?_⟩
      intro hother _
      rw [Task.change, hchanges.otherDataSource declared hother]
    · obtain ⟨declared, -, rfl⟩ := List.mem_map.mp hentity
      refine ⟨congrArg Name.resourceModule (hchanges.resourceName declared), ?_⟩
      intro hother _
      rw [Task.change, hchanges.otherResource declared hother]
  · obtain rfl := List.mem_singleton.mp hlast
    refine ⟨rfl, fun _ outputDirectory => ?_⟩
    rw [Task.change, Task.render_registry hregistry]

theorem ChangesTo.plan {dataSource : DataSource → DataSource} {resource : Resource → Resource}
    (hchanges : left.ChangesTo right moduleName dataSource resource)
    (hnames : left.checkNames = right.checkNames) (filter : Option String) :
    right.plan filter =
      (left.plan filter).map (List.map (Task.change dataSource resource right)) := by
  have htasks : ∀ (dataSources : List DataSource) (resources : List Resource),
      (dataSources.map dataSource).map Task.dataSource ++
          (resources.map resource).map Task.resource ++ [Task.registry right] =
        (dataSources.map Task.dataSource ++ resources.map Task.resource ++
          [Task.registry left]).map (Task.change dataSource resource right) := by
    intro dataSources resources
    simp [Task.change, Function.comp_def]
  simp only [Definitions.plan, hnames, hchanges.dataSources, hchanges.resources,
    selection_map hchanges.dataSourceName, selection_map hchanges.resourceName, List.isEmpty_map,
    htasks]
  cases right.checkNames with
  | error failure => rfl
  | ok done =>
      cases filter with
      | none => rfl
      | some name =>
          simp only [ok_bind]
          split
          · rfl
          · rfl

theorem DiffersIn.plan (hdiffers : left.DiffersIn right moduleName) (filter : Option String) :
    (∃ failure, left.plan filter = .error failure ∧ right.plan filter = .error failure) ∨
      ∃ tasks change, left.plan filter = .ok tasks ∧ right.plan filter = .ok (tasks.map change) ∧
        ∀ task ∈ tasks, Task.AlikeBut moduleName task (change task) := by
  cases hnames : left.checkNames with
  | error failure =>
      left
      refine ⟨failure, ?_, ?_⟩
      · simp only [Definitions.plan, hnames]
        rfl
      · simp only [Definitions.plan, ← hdiffers.checkNames, hnames]
        rfl
  | ok done =>
      obtain ⟨dataSource, resource, hchanges⟩ := hdiffers.changesTo hnames
      have hright := hchanges.plan hdiffers.checkNames filter
      cases hplan : left.plan filter with
      | error failure =>
          rw [hplan] at hright
          exact .inl ⟨failure, rfl, hright⟩
      | ok tasks =>
          rw [hplan] at hright
          exact .inr ⟨tasks, _, rfl, hright, hchanges.alike hdiffers.registry hplan⟩

end Definitions

namespace Tree

variable {outputDirectory moduleName : String} {tree later other : Tree} {tasks : List Task}
  {task : Task} {place : Tree.Place}

end Tree

section

variable {moduleName : String} {tasks : List Task} {change : Task → Task}

end

end ProviderForge

import ProviderForge.Proofs.Disk.Path
import ProviderForge.Proofs.Name.Identifier
import ProviderForge.Run

namespace ProviderForge

open Result

theorem firstRepeated?_eq_none {seen names : List String} :
    firstRepeated? seen names = none ↔ names.Nodup ∧ ∀ name ∈ names, name ∉ seen := by
  induction names generalizing seen with
  | nil => simp [firstRepeated?]
  | cons name rest ih =>
      unfold firstRepeated?
      split
      next hseen =>
        have hmem : name ∈ seen := by simpa using hseen
        simp [hmem]
      next hseen =>
        have hmem : name ∉ seen := by simpa using hseen
        rw [ih, List.nodup_cons]
        constructor
        · rintro ⟨hnodup, hfresh⟩
          refine ⟨⟨fun hin => hfresh name hin (by simp), hnodup⟩, ?_⟩
          intro other hother
          rcases List.mem_cons.mp hother with rfl | hin
          · exact hmem
          · exact fun hold => hfresh other hin (by simp [hold])
        · rintro ⟨⟨hnotin, hnodup⟩, hfresh⟩
          refine ⟨hnodup, fun other hin hold => ?_⟩
          rcases List.mem_cons.mp hold with rfl | hold
          · exact hnotin hin
          · exact hfresh other (by simp [hin]) hold

theorem checkUnique_ok {kind : String} {names : List String} :
    checkUnique kind names = .ok () ↔ names.Nodup := by
  unfold checkUnique
  cases hrepeated : firstRepeated? [] names with
  | some name =>
      have hnodup : ¬ names.Nodup := by
        intro hnodup
        rw [firstRepeated?_eq_none.mpr ⟨hnodup, by simp⟩] at hrepeated
        simp at hrepeated
      simp [hnodup]
  | none => simpa using (firstRepeated?_eq_none.mp hrepeated).1

theorem Definitions.checkNames_ok {definitions : Definitions} :
    definitions.checkNames = .ok () ↔
      (definitions.dataSources.map (·.name)).Nodup ∧
        (definitions.resources.map (·.name)).Nodup := by
  simp only [checkNames, bind_eq_ok, exists_unit, checkUnique_ok]

theorem Definitions.nodup_selection (nameOf : α → String) (filter : Option String)
    {entities : List α} (hnodup : (entities.map nameOf).Nodup) :
    ((selection nameOf filter entities).map nameOf).Nodup := by
  unfold selection
  have hperm := (List.mergeSort_perm (entities.filter (isSelected filter ∘ nameOf))
    fun left right => decide (nameOf left ≤ nameOf right)).map nameOf
  rw [hperm.nodup_iff]
  exact hnodup.sublist (List.filter_sublist.map nameOf)

theorem Definitions.selection_all {α : Type} (nameOf : α → String) (entities : List α) :
    selection nameOf none entities =
      entities.mergeSort fun left right => decide (nameOf left ≤ nameOf right) := by
  have hall : entities.filter (isSelected none ∘ nameOf) = entities :=
    List.filter_eq_self.mpr fun _ _ => rfl
  rw [selection, hall]

theorem Definitions.plan_ok {definitions : Definitions} {filter : Option String}
    {tasks : List Task} (hplan : definitions.plan filter = .ok tasks) :
    definitions.checkNames = .ok () ∧
      tasks = (selection DataSource.name filter definitions.dataSources).map .dataSource ++
        (selection Resource.name filter definitions.resources).map .resource ++
        [.registry definitions] := by
  simp only [plan, bind_eq_ok] at hplan
  obtain ⟨_, hnames, hplan⟩ := hplan
  refine ⟨hnames, ?_⟩
  cases filter with
  | none => exact (pure_eq_ok.mp hplan).symm
  | some name =>
      simp only at hplan
      split at hplan
      · simp at hplan
      · exact (pure_eq_ok.mp hplan).symm

namespace Task

theorem moduleName_head (task : Task) :
    task.moduleName.toList.head? = some
      (match task with | .dataSource _ => 'd' | .resource _ => 'r' | .registry _ => 'p') := by
  cases task <;>
    simp [moduleName, Name.dataSourceModule, Name.resourceModule, registryModule]

end Task

theorem Definitions.plan_nodup {definitions : Definitions} {filter : Option String}
    {tasks : List Task} (hplan : definitions.plan filter = .ok tasks) :
    (tasks.map (·.moduleName)).Nodup := by
  obtain ⟨hnames, rfl⟩ := plan_ok hplan
  obtain ⟨hdataSources, hresources⟩ := checkNames_ok.mp hnames
  have hprefixed : ∀ before left right : String, left ≠ right →
      before ++ left ≠ before ++ right :=
    fun before _ _ hne heq => hne ((String.append_right_inj before).mp heq)
  have hheads : ∀ first second : Task,
      first.moduleName = second.moduleName →
        first.moduleName.toList.head? = second.moduleName.toList.head? :=
    fun _ _ heq => by rw [heq]
  rw [List.map_append, List.map_append, List.nodup_append, List.nodup_append]
  refine ⟨⟨?_, ?_, ?_⟩, by simp, ?_⟩
  · have hnodup := nodup_selection DataSource.name filter hdataSources
    rw [List.map_map]
    change (List.map (("data_source_" ++ ·) ∘ DataSource.name) _).Nodup
    rw [← List.map_map]
    exact List.Pairwise.map _ (hprefixed "data_source_") hnodup
  · have hnodup := nodup_selection Resource.name filter hresources
    rw [List.map_map]
    change (List.map (("resource_" ++ ·) ∘ Resource.name) _).Nodup
    rw [← List.map_map]
    exact List.Pairwise.map _ (hprefixed "resource_") hnodup
  · simp only [List.mem_map, forall_exists_index, and_imp, forall_apply_eq_imp_iff₂]
    intro dataSource _ resource _ heq
    have hhead := hheads _ _ heq
    simp [Task.moduleName_head] at hhead
  · simp only [List.map_cons, List.map_nil, List.mem_append, List.mem_map, List.mem_singleton]
    rintro _ (⟨_, ⟨dataSource, _, rfl⟩, rfl⟩ | ⟨_, ⟨resource, _, rfl⟩, rfl⟩) _ rfl heq
    · have hhead := hheads _ _ heq
      simp [Task.moduleName_head] at hhead
    · have hhead := hheads _ _ heq
      simp [Task.moduleName_head] at hhead

namespace Task

/-- The registry, or an entity whose name is an identifier. -/
def IsNamed : Task → Prop
  | dataSource declared => Name.validate declared.name = .ok ()
  | resource declared => Name.validate declared.name = .ok ()
  | registry _ => True

theorem isNamed_of_code {task : Task} {code : Code} (hcode : task.code.result = .ok code) :
    task.IsNamed := by
  cases task with
  | dataSource declared =>
      simp only [Task.code, Traced.result_bind, Traced.result_ofExcept, bind_eq_ok,
        DataSource.check] at hcode
      obtain ⟨_, ⟨_, hname, -⟩, -⟩ := hcode
      exact hname
  | resource declared =>
      simp only [Task.code, Traced.result_bind, Traced.result_ofExcept, bind_eq_ok,
        Resource.check] at hcode
      obtain ⟨_, ⟨_, hname, -⟩, -⟩ := hcode
      exact hname
  | registry definitions => trivial

theorem moduleName_characters {task : Task} (hnamed : task.IsNamed) {character : Char}
    (hmem : character ∈ task.moduleName.toList) : Name.canContinue character = true := by
  have hname : ∀ (front name : String), front.toList.all Name.canContinue = true →
      Name.validate name = .ok () → character ∈ (front ++ name).toList →
      Name.canContinue character = true := by
    intro front name hfront hvalid hin
    rw [String.toList_append, List.mem_append] at hin
    rcases hin with hin | hin
    · exact List.all_eq_true.mp hfront character hin
    · have hword := (Name.fault?_eq_none.mp (Name.validate_eq_ok.mp hvalid)).1
      exact hword.canContinue character hin
  cases task with
  | dataSource declared => exact hname "data_source_" declared.name (by decide) hnamed hmem
  | resource declared => exact hname "resource_" declared.name (by decide) hnamed hmem
  | registry definitions =>
      have hregistry : registryModule.toList.all Name.canContinue = true := by decide
      exact List.all_eq_true.mp hregistry character hmem

theorem isStem_moduleName {task : Task} (hnamed : task.IsNamed) :
    Path.IsStem task.moduleName := by
  refine ⟨?_, ?_, ?_⟩
  · intro hmem
    exact absurd (moduleName_characters hnamed hmem) (by decide)
  · intro hmem
    exact absurd (moduleName_characters hnamed hmem) (by decide)
  · intro hempty
    have hhead := moduleName_head task
    rw [hempty] at hhead
    simp at hhead

end Task

namespace Definitions

variable {α : Type} {nameOf : α → String} {entities : List α}

end Definitions

end ProviderForge

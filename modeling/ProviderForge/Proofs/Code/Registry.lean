import ProviderForge.Definition.BuiltIn
import ProviderForge.Definition.Check
import ProviderForge.Proofs.Name.Words
import ProviderForge.Code.Registry

namespace ProviderForge

open Code Result

namespace Registry

def constructorPath (moduleName typeName : String) : Code :=
  within (within (within (word "super") (word moduleName)) (word typeName)) (word "new")

section

variable {beginning ending entity : String}

theorem constructor_of_name (hbeginning : Name.IsWord beginning)
    (hfields : ∀ keyword ∈ Name.rawKeywords ++ Name.reserved,
      ¬ beginning.toList <+: keyword.toList)
    (hending : Name.IsWord ending)
    (htypes : ∀ keyword ∈ Name.rawKeywords ++ Name.reserved, ¬ ending.toList <:+ keyword.toList)
    (hentity : Name.IsWord entity) :
    constructor (beginning ++ entity) (Name.upperCamel entity ++ ending) =
      if Name.isNumbered entity then
        .error (.invalidIdentifier (Name.upperCamel entity ++ ending) .badStart)
      else .ok (constructorPath (beginning ++ entity) (Name.upperCamel entity ++ ending)) := by
  have hmodule := Identifier.field_of_beginning hbeginning hfields hentity.canContinue
  cases hnumbered : Name.isNumbered entity with
  | true =>
      have hfault := Name.fault?_upperCamel_append hentity hnumbered ending
      simp [constructor, hmodule, Identifier.type, Name.validate, hfault]
  | false =>
      have htype := Identifier.type_of_ending
        (Name.isWord_upperCamel_append hentity hending hnumbered) ending
        (by rw [String.toList_append]; exact List.suffix_append _ _) htypes
      simp [constructor, hmodule, htype]
      rfl

end

/-- The constructor of a resource is missing where its type would begin with a digit. -/
theorem resourceConstructor_eq {entity : String} (hentity : Name.IsWord entity) :
    resourceConstructor entity =
      if Name.isNumbered entity then
        .error (.invalidIdentifier (Name.resourceType entity) .badStart)
      else .ok (constructorPath (Name.resourceModule entity) (Name.resourceType entity)) :=
  constructor_of_name ⟨'r', "esource_".toList, by decide⟩ (by decide)
    ⟨'R', "esource".toList, by decide⟩ (by decide) hentity

theorem dataSourceConstructor_eq {entity : String} (hentity : Name.IsWord entity) :
    dataSourceConstructor entity =
      if Name.isNumbered entity then
        .error (.invalidIdentifier (Name.dataSourceType entity) .badStart)
      else .ok (constructorPath (Name.dataSourceModule entity) (Name.dataSourceType entity)) :=
  constructor_of_name ⟨'d', "ata_source_".toList, by decide⟩ (by decide)
    ⟨'D', "ataSource".toList, by decide⟩ (by decide) hentity

theorem mem_sortedNames {name : String} {names : List String} :
    name ∈ sortedNames names ↔ name ∈ names :=
  List.mem_mergeSort

theorem code_eq_error {definitions : Definitions} {failure : Failure}
    (hfailed : code definitions = .error failure) :
    (∃ name ∈ definitions.resources.map (·.name),
        resourceConstructor name = .error failure) ∨
      ∃ name ∈ definitions.dataSources.map (·.name),
        dataSourceConstructor name = .error failure := by
  simp only [code, bind_eq_error, pure_eq_error, and_false, exists_false, or_false] at hfailed
  rcases hfailed with hresources | ⟨_, -, hdataSources⟩
  · obtain ⟨name, hmem, hname⟩ := exists_of_mapM_error hresources
    exact .inl ⟨name, mem_sortedNames.mp hmem, hname⟩
  · obtain ⟨name, hmem, hname⟩ := exists_of_mapM_error hdataSources
    exact .inr ⟨name, mem_sortedNames.mp hmem, hname⟩

theorem exists_code {definitions : Definitions} :
    (∃ made, code definitions = .ok made) ↔
      (∀ name ∈ definitions.resources.map (·.name), ∃ made, resourceConstructor name = .ok made) ∧
        ∀ name ∈ definitions.dataSources.map (·.name),
          ∃ made, dataSourceConstructor name = .ok made := by
  have hsorted : ∀ (names : List String) (constructor : String → Except Failure Code),
      (∃ made, (sortedNames names).mapM constructor = .ok made) ↔
        ∀ name ∈ names, ∃ made, constructor name = .ok made := by
    intro names constructor
    simp only [exists_mapM_ok, mem_sortedNames]
  rw [← hsorted, ← hsorted]
  simp only [code, bind_eq_ok, pure_eq_ok]
  constructor
  · rintro ⟨_, resources, hresources, dataSources, hdataSources, -⟩
    exact ⟨⟨resources, hresources⟩, dataSources, hdataSources⟩
  · rintro ⟨⟨resources, hresources⟩, dataSources, hdataSources⟩
    exact ⟨_, resources, hresources, dataSources, hdataSources, rfl⟩

end Registry

theorem DataSource.isWord_of_check {declared : DataSource} (hcheck : declared.check = .ok ()) :
    Name.IsWord declared.name := by
  simp only [check, bind_eq_ok, exists_unit] at hcheck
  exact (Name.fault?_eq_none.mp (Name.validate_eq_ok.mp hcheck.1)).1

theorem Resource.isWord_of_check {declared : Resource} (hcheck : declared.check = .ok ()) :
    Name.IsWord declared.name := by
  simp only [check, bind_eq_ok, exists_unit] at hcheck
  exact (Name.fault?_eq_none.mp (Name.validate_eq_ok.mp hcheck.1)).1

theorem Definitions.isWord_of_check {definitions : Definitions}
    (hcheck : definitions.check = .ok ()) :
    (∀ name ∈ definitions.resources.map (·.name), Name.IsWord name) ∧
      ∀ name ∈ definitions.dataSources.map (·.name), Name.IsWord name := by
  simp only [check, bind_eq_ok, exists_unit, forM_eq_ok] at hcheck
  obtain ⟨-, hdataSources, hresources⟩ := hcheck
  simp only [List.mem_map, forall_exists_index, and_imp, forall_apply_eq_imp_iff₂]
  exact ⟨fun declared hmem => Resource.isWord_of_check (hresources declared hmem),
    fun declared hmem => DataSource.isWord_of_check (hdataSources declared hmem)⟩

/-- Accepted definitions have a registry unless the name of an entity is underscores before a
digit, and then the type of such an entity is what the registry cannot name. -/
theorem checked_registers_iff (definitions : Definitions) (hcheck : definitions.check = .ok ()) :
    ((∃ code, Registry.code definitions = .ok code) ↔
      ∀ name ∈ definitions.resources.map (·.name) ++ definitions.dataSources.map (·.name),
        Name.isNumbered name = false) ∧
    ∀ failure, Registry.code definitions = .error failure →
      (∃ name ∈ definitions.resources.map (·.name), Name.isNumbered name = true ∧
        failure = .invalidIdentifier (Name.resourceType name) .badStart) ∨
      ∃ name ∈ definitions.dataSources.map (·.name), Name.isNumbered name = true ∧
        failure = .invalidIdentifier (Name.dataSourceType name) .badStart := by
  obtain ⟨hresources, hdataSources⟩ := Definitions.isWord_of_check hcheck
  refine ⟨?_, fun failure hfailed => ?_⟩
  · rw [Registry.exists_code, List.forall_mem_append]
    refine and_congr (forall₂_congr fun name hmem => ?_) (forall₂_congr fun name hmem => ?_)
    · rw [Registry.resourceConstructor_eq (hresources name hmem)]
      cases Name.isNumbered name <;> simp
    · rw [Registry.dataSourceConstructor_eq (hdataSources name hmem)]
      cases Name.isNumbered name <;> simp
  · refine (Registry.code_eq_error hfailed).imp ?_ ?_
    · rintro ⟨name, hmem, hname⟩
      rw [Registry.resourceConstructor_eq (hresources name hmem)] at hname
      cases hnumbered : Name.isNumbered name with
      | true => exact ⟨name, hmem, hnumbered, by simpa [hnumbered] using hname.symm⟩
      | false => simp [hnumbered] at hname
    · rintro ⟨name, hmem, hname⟩
      rw [Registry.dataSourceConstructor_eq (hdataSources name hmem)] at hname
      cases hnumbered : Name.isNumbered name with
      | true => exact ⟨name, hmem, hnumbered, by simpa [hnumbered] using hname.symm⟩
      | false => simp [hnumbered] at hname

def numberedKey : Resource :=
  { BuiltIn.clientKey with name := "_1" }

theorem numberedKey_registers_iff :
    let definitions : Definitions := ⟨[BuiltIn.allProjects], [numberedKey]⟩
    definitions.check = .ok () ∧
      ((∃ code, Registry.code definitions = .ok code) ↔
        ∀ name ∈ definitions.resources.map (·.name) ++ definitions.dataSources.map (·.name),
          Name.isNumbered name = false) ∧
      ∀ failure, Registry.code definitions = .error failure →
        (∃ name ∈ definitions.resources.map (·.name), Name.isNumbered name = true ∧
          failure = .invalidIdentifier (Name.resourceType name) .badStart) ∨
        ∃ name ∈ definitions.dataSources.map (·.name), Name.isNumbered name = true ∧
          failure = .invalidIdentifier (Name.dataSourceType name) .badStart := by
  have hcheck : Definitions.check ⟨[BuiltIn.allProjects], [numberedKey]⟩ = .ok () := by
    decide +kernel
  exact ⟨hcheck, checked_registers_iff _ hcheck⟩

/-- One accepted name keeps the registry of every entity from being made. -/
theorem numberedKey_is_not_registered :
    Definitions.check ⟨[BuiltIn.allProjects], [numberedKey]⟩ = .ok () ∧
      Registry.code ⟨[BuiltIn.allProjects], [numberedKey]⟩ =
        .error (.invalidIdentifier "1Resource" .badStart) := by
  have hconstructor : Registry.resourceConstructor "_1" =
      .error (.invalidIdentifier "1Resource" .badStart) := by
    have htype : Name.resourceType "_1" = "1Resource" := by decide +kernel
    rw [Registry.resourceConstructor_eq ⟨'_', ['1'], rfl, by decide, by decide⟩,
      if_pos (by decide +kernel), htype]
  refine ⟨by decide +kernel, ?_⟩
  simp only [Registry.code, Registry.sortedNames, List.map_cons, List.map_nil,
    List.mergeSort_singleton, List.mapM_cons, numberedKey, hconstructor, error_bind]

end ProviderForge

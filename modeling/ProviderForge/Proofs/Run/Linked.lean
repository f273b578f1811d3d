import ProviderForge.Proofs.Code.Tables
import ProviderForge.Proofs.Generated
import ProviderForge.Proofs.Run.Rendered

namespace ProviderForge

open Code Result Registry

namespace Name

def bytes (name : String) : List UInt8 :=
  name.toUTF8.data.toList

theorem bytes_eq {name : String} (hascii : ∀ character ∈ name.toList, character.toNat < 128) :
    bytes name = name.toList.map fun character => character.val.toUInt8 := by
  have hencode : ∀ letters : List Char, (∀ character ∈ letters, character.toNat < 128) →
      letters.flatMap String.utf8EncodeChar =
        letters.map fun character => character.val.toUInt8 := by
    intro letters hletters
    induction letters with
    | nil => rfl
    | cons first rest ih =>
        obtain ⟨hfirst, hrest⟩ := List.forall_mem_cons.mp hletters
        have hone : first.utf8Size = 1 :=
          Char.utf8Size_eq_one_iff.mpr (UInt32.le_iff_toNat_le.mpr (Nat.le_of_lt_succ hfirst))
        simp [String.utf8EncodeChar_eq_singleton hone, ih hrest]
  rw [bytes, String.toUTF8, ← String.utf8Encode_toList, List.utf8Encode, List.data_toByteArray,
    List.toList_toArray, hencode _ hascii]

theorem bytes_lt {left right : String} (hleft : ∀ character ∈ left.toList, character.toNat < 128)
    (hright : ∀ character ∈ right.toList, character.toNat < 128) (hlt : left < right) :
    bytes left < bytes right := by
  rw [bytes_eq hleft, bytes_eq hright]
  rw [String.lt_iff] at hlt
  generalize left.toList = letters at hleft hlt
  generalize right.toList = others at hright hlt
  induction letters generalizing others with
  | nil =>
      cases others with
      | nil => simp at hlt
      | cons other others => simp
  | cons first letters ih =>
      cases others with
      | nil => simp at hlt
      | cons other others =>
          obtain ⟨hfirst, hletters⟩ := List.forall_mem_cons.mp hleft
          obtain ⟨hother, hothers⟩ := List.forall_mem_cons.mp hright
          rw [List.cons_lt_cons_iff] at hlt
          rw [List.map_cons, List.map_cons, List.cons_lt_cons_iff]
          rcases hlt with hlt | ⟨rfl, hlt⟩
          · refine .inl (UInt8.lt_iff_toNat_lt.mpr ?_)
            have hbyte : ∀ character : Char, character.toNat < 128 →
                character.val.toUInt8.toNat = character.toNat := fun character hascii => by
              rw [UInt32.toNat_toUInt8]
              exact Nat.mod_eq_of_lt (Nat.lt_trans hascii (by decide))
            rw [hbyte first hfirst, hbyte other hother]
            exact hlt
          · exact .inr ⟨rfl, ih hletters others hothers hlt⟩

end Name

theorem pairwise_bytes {α : Type} {nameOf : α → String} {entities : List α}
    (hsorted : entities.Pairwise fun left right => nameOf left ≤ nameOf right)
    (hnodup : (entities.map nameOf).Nodup)
    (hwords : ∀ entity ∈ entities, Name.IsWord (nameOf entity)) :
    entities.Pairwise fun left right =>
      Name.bytes (nameOf left) < Name.bytes (nameOf right) := by
  have hdifferent := List.pairwise_map.mp hnodup
  refine (hsorted.and hdifferent).imp_of_mem fun {left right} hleft hright hboth => ?_
  have hascii : ∀ entity ∈ entities, ∀ character ∈ (nameOf entity).toList, character.toNat < 128 :=
    fun entity hmem character hin =>
      Name.toNat_of_canContinue ((hwords entity hmem).canContinue character hin)
  refine Name.bytes_lt (hascii left hleft) (hascii right hright) ?_
  exact Decidable.byContradiction fun hge => hboth.2 (String.le_antisymm hboth.1 hge)

namespace Registry

def Constructor.path (made : Constructor) (outputDirectory : String) : String :=
  Path.join outputDirectory (made.moduleName ++ ".rs")

/-- A kind of entities that the registry has a table for. -/
structure Kind (α : Type) where
  tableName : String
  product : Code
  nameOf : α → String
  taskOf : α → Task
  constructorOf : α → Constructor

def resources : Kind Resource where
  tableName := "AUTO_GENERATED_RESOURCES"
  product := Lifecycle.boxedTrait "resource" "Resource"
  nameOf := Resource.name
  taskOf := .resource
  constructorOf declared := ⟨Name.resourceModule declared.name, Name.resourceType declared.name⟩

def dataSources : Kind DataSource where
  tableName := "AUTO_GENERATED_DATA_SOURCES"
  product := Lifecycle.boxedTrait "datasource" "DataSource"
  nameOf := DataSource.name
  taskOf := .dataSource
  constructorOf declared := ⟨Name.dataSourceModule declared.name, Name.dataSourceType declared.name⟩

/-- The table of the kind is the list of the declared entities' constructors, and each of these is
declared in a file of the report. -/
structure Kind.Links {α : Type} (kind : Kind α) (outputDirectory : String) (report : Report)
    (registry : Code) (declared listed : List α) : Prop where
  all : listed.Perm declared
  ascending : listed.Pairwise fun left right =>
    Name.bytes (kind.nameOf left) < Name.bytes (kind.nameOf right)
  holds : Holds registry kind.tableName kind.product (listed.map kind.constructorOf)
  generated : ∀ entity ∈ listed, ∃ code content, (kind.taskOf entity).code.result = .ok code ∧
    GeneratedFile.contentOf code = .ok content ∧
    ⟨(kind.constructorOf entity).path outputDirectory, content⟩ ∈ report.files ∧
    Declares (kind.constructorOf entity).typeName kind.product code

end Registry

theorem Task.path_inj {outputDirectory : String} {left right : Task} :
    left.path outputDirectory = right.path outputDirectory ↔
      left.moduleName = right.moduleName := by
  rw [path, path, Path.join_inj, String.append_left_inj]

theorem Registry.sortedNames_map {α : Type} (nameOf : α → String) (entities : List α) :
    sortedNames (entities.map nameOf) =
      (Definitions.selection nameOf none entities).map nameOf := by
  rw [Definitions.selection_all, sortedNames]
  exact (List.map_mergeSort (f := nameOf) fun _ _ _ _ => rfl).symm

theorem Registry.Kind.links {α : Type} {kind : Kind α} {outputDirectory : String} {report : Report}
    {registry : Code} {declared : List α}
    (hnodup : (declared.map kind.nameOf).Nodup)
    (hnamed : ∀ entity, (kind.taskOf entity).IsNamed → Name.IsWord (kind.nameOf entity))
    (hmodule : ∀ entity,
      (kind.taskOf entity).moduleName = (kind.constructorOf entity).moduleName)
    (hdeclares : ∀ entity code, (kind.taskOf entity).code.result = .ok code →
      Declares (kind.constructorOf entity).typeName kind.product code)
    (hholds : Holds registry kind.tableName kind.product
      ((Definitions.selection kind.nameOf none declared).map kind.constructorOf))
    (hrendered : ∀ entity ∈ Definitions.selection kind.nameOf none declared,
      ∃ file ∈ report.files, ((kind.taskOf entity).render outputDirectory).result = .ok file) :
    kind.Links outputDirectory report registry declared
      (Definitions.selection kind.nameOf none declared) := by
  have hgenerated : ∀ entity ∈ Definitions.selection kind.nameOf none declared,
      ∃ code content, (kind.taskOf entity).code.result = .ok code ∧
        GeneratedFile.contentOf code = .ok content ∧
        ⟨(kind.constructorOf entity).path outputDirectory, content⟩ ∈ report.files ∧
        Declares (kind.constructorOf entity).typeName kind.product code := by
    intro entity hmem
    obtain ⟨file, hfile, hrender⟩ := hrendered entity hmem
    obtain ⟨code, content, hcode, hcontent, rfl⟩ := Task.code_of_render hrender
    rw [Task.path, hmodule entity] at hfile
    exact ⟨code, content, hcode, hcontent, hfile, hdeclares entity code hcode⟩
  refine ⟨?_, ?_, hholds, hgenerated⟩
  · rw [Definitions.selection_all]
    exact List.mergeSort_perm _ _
  · refine pairwise_bytes ?_ (Definitions.nodup_selection kind.nameOf none hnodup) ?_
    · rw [Definitions.selection_all]
      exact pairwise_sortedBy kind.nameOf declared
    · intro entity hmem
      obtain ⟨code, _, hcode, -⟩ := hgenerated entity hmem
      exact hnamed entity (Task.isNamed_of_code hcode)

/-- After a run of all definitions without a failure, the registry's tables list the declared
entities in the order of their names, each by the constructor that its file declares, and the files
of the report are the registry's and those that one entry of the tables each names. -/
theorem Definitions.run_links {definitions : Definitions} {outputDirectory : String}
    {isDryRun : Bool} {tree : Tree} {report : Report}
    (hrun : (definitions.run ⟨outputDirectory, none, isDryRun⟩ tree).2.result = .ok report)
    (hfailures : report.failures = []) :
    ∃ registry content resources dataSources, Registry.code definitions = .ok registry ∧
      GeneratedFile.contentOf registry = .ok content ∧
      ⟨Path.join outputDirectory "provider_gen.rs", content⟩ ∈ report.files ∧
      Registry.resources.Links outputDirectory report registry definitions.resources resources ∧
      Registry.dataSources.Links outputDirectory report registry definitions.dataSources
        dataSources ∧
      (report.files.map (·.path)).Nodup ∧
      (report.files.map (·.path)).Perm (Path.join outputDirectory "provider_gen.rs" ::
        (resources.map Registry.resources.constructorOf ++
          dataSources.map Registry.dataSources.constructorOf).map (·.path outputDirectory)) := by
  obtain ⟨tasks, files, hplan, hrendered, hperm⟩ := run_rendered hrun hfailures
  have hmodules := plan_nodup hplan
  obtain ⟨hnames, htasks⟩ := plan_ok hplan
  obtain ⟨hdataSourceNames, hresourceNames⟩ := checkNames_ok.mp hnames
  have hfile : ∀ task ∈ tasks, ∃ file ∈ report.files,
      (task.render outputDirectory).result = .ok file := by
    intro task hmem
    obtain ⟨file, hin, hrender⟩ := exists_mem_of_mapM_ok hrendered task hmem
    exact ⟨file, hperm.symm.subset hin, hrender⟩
  obtain ⟨registryFile, hregistryFile, hregistryRender⟩ :=
    hfile (.registry definitions) (by simp [htasks])
  obtain ⟨registry, content, hregistry, hcontent, rfl⟩ := Task.code_of_render hregistryRender
  obtain ⟨hresourceTable, hdataSourceTable⟩ := Registry.code_holds hregistry
  rw [Registry.sortedNames_map, List.map_map] at hresourceTable hdataSourceTable
  have hpaths : files.map (·.path) = tasks.map (·.path outputDirectory) :=
    map_of_mapM_ok hrendered fun task file hrender => (Task.path_of_render hrender).2
  have hword : ∀ name, Name.validate name = .ok () → Name.IsWord name := fun name hvalid =>
    (Name.fault?_eq_none.mp (Name.validate_eq_ok.mp hvalid)).1
  have hresource : ∀ declared ∈ selection Resource.name none definitions.resources,
      Task.resource declared ∈ tasks := fun declared hmem => by simp [htasks, hmem]
  have hdataSource : ∀ declared ∈ selection DataSource.name none definitions.dataSources,
      Task.dataSource declared ∈ tasks := fun declared hmem => by simp [htasks, hmem]
  have hresourceLinks : Registry.resources.Links outputDirectory report registry
      definitions.resources _ :=
    Kind.links hresourceNames (fun declared => hword declared.name) (fun _ => rfl)
      (fun _ _ hcode => Resource.declares_code (Task.code_resource hcode)) hresourceTable
      fun declared hmem => hfile _ (hresource declared hmem)
  have hdataSourceLinks : Registry.dataSources.Links outputDirectory report registry
      definitions.dataSources _ :=
    Kind.links hdataSourceNames (fun declared => hword declared.name) (fun _ => rfl)
      (fun _ _ hcode => DataSource.declares_code (Task.code_dataSource hcode)) hdataSourceTable
      fun declared hmem => hfile _ (hdataSource declared hmem)
  refine ⟨registry, content, _, _, hregistry, hcontent, hregistryFile, hresourceLinks,
    hdataSourceLinks, ?_, ?_⟩
  · rw [(hperm.map (·.path)).nodup_iff, hpaths, List.Nodup, List.pairwise_map]
    exact (List.pairwise_map.mp hmodules).imp fun hdifferent hsame =>
      hdifferent (Task.path_inj.mp hsame)
  · have hswap : ∀ (dataSources resources : List String) (path : String),
        (dataSources ++ resources ++ [path]).Perm (path :: (resources ++ dataSources)) :=
      fun _ _ _ => (List.perm_append_singleton _ _).trans (List.perm_append_comm.cons _)
    refine (hperm.map (·.path)).trans ?_
    rw [hpaths, htasks]
    simp only [List.map_append, List.map_map, List.map_cons, List.map_nil]
    exact hswap _ _ _

def sharedName : Definitions :=
  { dataSources := [BuiltIn.allProjects]
    resources := [{ unmodifiedKey with name := "all_projects" }] }

theorem sharedName_links :
    ∃ report, (sharedName.run ⟨"out", none, true⟩ {}).2.result = .ok report ∧
      report.failures = [] ∧
      ∃ registry content resources dataSources, Registry.code sharedName = .ok registry ∧
        GeneratedFile.contentOf registry = .ok content ∧
        ⟨Path.join "out" "provider_gen.rs", content⟩ ∈ report.files ∧
        Registry.resources.Links "out" report registry sharedName.resources resources ∧
        Registry.dataSources.Links "out" report registry sharedName.dataSources dataSources ∧
        (report.files.map (·.path)).Nodup ∧
        (report.files.map (·.path)).Perm (Path.join "out" "provider_gen.rs" ::
          (resources.map Registry.resources.constructorOf ++
            dataSources.map Registry.dataSources.constructorOf).map (·.path "out")) := by
  have hpagesFree : BuiltIn.allProjects.IsFragmentFree :=
    ⟨by decide +kernel, fun hooks hstrategy => by cases hstrategy; exact ⟨rfl, rfl, rfl⟩⟩
  have hkeyFree : Resource.IsFragmentFree { unmodifiedKey with name := "all_projects" } :=
    ⟨by decide +kernel, fun options hoptions => by cases hoptions; exact ⟨rfl, rfl, rfl⟩⟩
  have hpagesCode : Succeeds (Task.dataSource BuiltIn.allProjects).code.result := by
    decide +kernel
  have hkeyCode : Succeeds
      (Task.resource { unmodifiedKey with name := "all_projects" }).code.result := by
    decide +kernel
  have hregistryCode : Succeeds (Task.registry sharedName).code.result := by
    -- sorting is not by structural recursion, so the kernel is given the sorted names
    simp only [Task.code, Traced.result_ofExcept, Registry.code, Registry.sortedNames, sharedName,
      List.map_cons, List.map_nil, List.mergeSort_singleton]
    decide +kernel
  obtain ⟨pages, hpages⟩ := hpagesCode
  obtain ⟨key, hkey⟩ := hkeyCode
  obtain ⟨registry, hregistry⟩ := hregistryCode
  obtain ⟨pagesFile, hpagesFile⟩ := Task.exists_render hpages
    (DataSource.isFile_code hpagesFree (Task.code_dataSource hpages)) "out"
  obtain ⟨keyFile, hkeyFile⟩ := Task.exists_render hkey
    (Resource.isFile_code hkeyFree (Task.code_resource hkey)) "out"
  obtain ⟨registryFile, hregistryFile⟩ := Task.exists_render hregistry
    (Registry.isFile_code hregistry) "out"
  have hplan : sharedName.plan none = .ok [.dataSource BuiltIn.allProjects,
      .resource { unmodifiedKey with name := "all_projects" }, .registry sharedName] := by
    have hnames : sharedName.checkNames = .ok () := by decide +kernel
    simp only [Definitions.plan, hnames, ok_bind, Definitions.selection_all]
    simp [sharedName]
  have hrendered : [.dataSource BuiltIn.allProjects,
      .resource { unmodifiedKey with name := "all_projects" }, .registry sharedName].mapM
        (fun task : Task => (task.render "out").result) =
          .ok [pagesFile, keyFile, registryFile] := by
    simp [hpagesFile, hkeyFile, hregistryFile]
  obtain ⟨report, hrun, hfailures, -⟩ := Definitions.run_of_rendered hplan hrendered {}
  exact ⟨report, hrun, hfailures, Definitions.run_links hrun hfailures⟩

end ProviderForge

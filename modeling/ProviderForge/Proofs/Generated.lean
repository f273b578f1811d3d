import ProviderForge.Definition.BuiltIn
import ProviderForge.Generated
import ProviderForge.Proofs.Code.Grammar.Resource

namespace ProviderForge

open Result

namespace GeneratedFile

/-- The code is a whole file, and its text is written under the header line. -/
def Renders (path : String) (code : Code) : Prop :=
  ∃ file, SourceFile.ofCode code = .ok file ∧
    render path code = .ok ⟨path, header ++ file.text⟩

theorem renders_of_file {code : Code} (hfile : ∃ file, SourceFile.ofCode code = .ok file)
    (path : String) : Renders path code := by
  obtain ⟨file, hfile⟩ := hfile
  exact ⟨file, hfile, by simp [render, contentOf, hfile]⟩

end GeneratedFile

open GeneratedFile

/-- Only code that a definition brings along can be rejected. -/
theorem fragmentFree_renders :
    (∀ declared : DataSource, declared.IsFragmentFree →
      ∀ code, declared.code.result = .ok code → ∀ path, Renders path code) ∧
    (∀ declared : Resource, declared.IsFragmentFree →
      ∀ code, declared.code.result = .ok code → ∀ path, Renders path code) ∧
    ∀ (definitions : Definitions) (code : Code), Registry.code definitions = .ok code →
      ∀ path, Renders path code :=
  ⟨fun _ hfree _ hcode => renders_of_file (DataSource.isFile_code hfree hcode),
    fun _ hfree _ hcode => renders_of_file (Resource.isFile_code hfree hcode),
    fun _ _ hcode => renders_of_file (Registry.isFile_code hcode)⟩

def unmodifiedKey : Resource :=
  { BuiltIn.clientKey with
    attributes := BuiltIn.clientKey.attributes.map
      (Attribute.withOptions fun options => { options with planModifiers := [] }) }

def pagesAndKey : Definitions :=
  { dataSources := [BuiltIn.allProjects], resources := [unmodifiedKey] }

theorem pagesAndKey_renders :
    (∃ code, BuiltIn.allProjects.code.result = .ok code ∧
      Renders "data_source_all_projects.rs" code) ∧
    (∃ code, unmodifiedKey.code.result = .ok code ∧ Renders "resource_key.rs" code) ∧
    ∃ code, Registry.code pagesAndKey = .ok code ∧ Renders "provider_gen.rs" code := by
  have hpages : BuiltIn.allProjects.IsFragmentFree :=
    ⟨by decide +kernel, fun hooks hstrategy => by cases hstrategy; exact ⟨rfl, rfl, rfl⟩⟩
  have hkey : unmodifiedKey.IsFragmentFree :=
    ⟨by decide +kernel, fun options hoptions => by cases hoptions; exact ⟨rfl, rfl, rfl⟩⟩
  have hpagesCode : Succeeds BuiltIn.allProjects.code.result := by decide +kernel
  have hkeyCode : Succeeds unmodifiedKey.code.result := by decide +kernel
  have hregistryCode : Succeeds (Registry.code pagesAndKey) := by
    -- sorting is not by structural recursion, so the kernel is given the sorted names
    simp only [Registry.code, Registry.sortedNames, pagesAndKey, List.map_cons, List.map_nil,
      List.mergeSort_singleton]
    decide +kernel
  obtain ⟨pages, hpagesCode⟩ := hpagesCode
  obtain ⟨key, hkeyCode⟩ := hkeyCode
  obtain ⟨registry, hregistryCode⟩ := hregistryCode
  exact ⟨⟨pages, hpagesCode, fragmentFree_renders.1 _ hpages pages hpagesCode _⟩,
    ⟨key, hkeyCode, fragmentFree_renders.2.1 _ hkey key hkeyCode _⟩,
    ⟨registry, hregistryCode, fragmentFree_renders.2.2 _ registry hregistryCode _⟩⟩

end ProviderForge

import ProviderForge.Definition.BuiltIn
import ProviderForge.Proofs.Run.Linked

namespace ProviderForge

open Result

structure Definitions.Reorders (left right : Definitions) : Prop where
  dataSources : left.dataSources.Perm right.dataSources
  resources : left.resources.Perm right.resources

theorem Definitions.selection_perm {α : Type} {nameOf : α → String} {entities others : List α}
    (filter : Option String) (hnodup : (entities.map nameOf).Nodup) (hperm : entities.Perm others) :
    selection nameOf filter entities = selection nameOf filter others := by
  have hselected : (selection nameOf filter entities).Perm (selection nameOf filter others) :=
    (List.mergeSort_perm _ _).trans ((hperm.filter _).trans (List.mergeSort_perm _ _).symm)
  exact eq_of_sortedBy (nodup_selection nameOf filter hnodup) (pairwise_sortedBy nameOf _)
    (pairwise_sortedBy nameOf _) hselected

theorem Registry.sortedNames_perm {names others : List String} (hperm : names.Perm others) :
    sortedNames names = sortedNames others :=
  List.Perm.eq_of_pairwise (fun _ _ _ _ => String.le_antisymm)
    (pairwise_sortedBy (fun name => name) names) (pairwise_sortedBy (fun name => name) others)
    ((List.mergeSort_perm _ _).trans (hperm.trans (List.mergeSort_perm _ _).symm))

theorem checkUnique_error (kind : String) {names : List String} (hrepeated : ¬ names.Nodup) :
    ∃ name, checkUnique kind names = .error (.duplicateEntity kind name) := by
  unfold checkUnique
  cases hfirst : firstRepeated? [] names with
  | some name => exact ⟨name, rfl⟩
  | none => exact absurd (firstRepeated?_eq_none.mp hfirst).1 hrepeated

theorem checkUnique_perm (kind : String) {names others : List String} (hperm : names.Perm others) :
    (checkUnique kind names = .ok () ∧ checkUnique kind others = .ok ()) ∨
      ∃ name other, checkUnique kind names = .error (.duplicateEntity kind name) ∧
        checkUnique kind others = .error (.duplicateEntity kind other) := by
  by_cases hnodup : names.Nodup
  · exact .inl ⟨checkUnique_ok.mpr hnodup, checkUnique_ok.mpr (hperm.nodup_iff.mp hnodup)⟩
  · obtain ⟨name, hname⟩ := checkUnique_error kind hnodup
    obtain ⟨other, hother⟩ := checkUnique_error kind (mt hperm.nodup_iff.mpr hnodup)
    exact .inr ⟨name, other, hname, hother⟩

namespace Definitions

variable {left right : Definitions}

theorem Reorders.checkNames (hreorders : left.Reorders right) :
    (left.checkNames = .ok () ∧ right.checkNames = .ok ()) ∨
      ∃ kind name other, left.checkNames = .error (.duplicateEntity kind name) ∧
        right.checkNames = .error (.duplicateEntity kind other) := by
  simp only [Definitions.checkNames]
  rcases checkUnique_perm "data source" (hreorders.dataSources.map (·.name)) with
    ⟨hleft, hright⟩ | ⟨name, other, hleft, hright⟩
  · rw [hleft, hright, ok_bind, ok_bind]
    rcases checkUnique_perm "resource" (hreorders.resources.map (·.name)) with
      hunique | ⟨name, other, hrepeated⟩
    · exact .inl hunique
    · exact .inr ⟨_, name, other, hrepeated⟩
  · rw [hleft, hright]
    exact .inr ⟨_, name, other, rfl, rfl⟩

theorem Reorders.registry (hreorders : left.Reorders right) :
    Registry.code left = Registry.code right := by
  unfold Registry.code
  rw [Registry.sortedNames_perm (hreorders.dataSources.map (·.name)),
    Registry.sortedNames_perm (hreorders.resources.map (·.name))]

/-- Only the registry's task, which carries all definitions, is another one. -/
theorem Reorders.plan (hreorders : left.Reorders right) (filter : Option String) :
    (∃ kind name other, left.plan filter = .error (.duplicateEntity kind name) ∧
        right.plan filter = .error (.duplicateEntity kind other)) ∨
      (∃ reason, left.plan filter = .error (.invalidConfiguration reason) ∧
        right.plan filter = .error (.invalidConfiguration reason)) ∨
      ∃ tasks, left.plan filter = .ok (tasks ++ [.registry left]) ∧
        right.plan filter = .ok (tasks ++ [.registry right]) := by
  rcases hreorders.checkNames with ⟨hleft, hright⟩ | ⟨kind, name, other, hleft, hright⟩
  · obtain ⟨hdataSources, hresources⟩ := checkNames_ok.mp hleft
    simp only [Definitions.plan, hleft, hright, ok_bind,
      ← selection_perm filter hdataSources hreorders.dataSources,
      ← selection_perm filter hresources hreorders.resources]
    cases filter with
    | none => exact .inr (.inr ⟨_, rfl, rfl⟩)
    | some name =>
        dsimp only
        split
        · exact .inr (.inl ⟨_, rfl, rfl⟩)
        · exact .inr (.inr ⟨_, rfl, rfl⟩)
  · simp only [Definitions.plan, hleft, hright]
    exact .inl ⟨kind, name, other, rfl, rfl⟩

end Definitions

end ProviderForge

import ProviderForge.Definition.Check
import ProviderForge.Proofs.Name.Words

namespace ProviderForge

open Result

namespace Attribute

mutual
def withNested : Attribute → List Attribute
  | plain options shape => [plain options shape]
  | nested options children model => nested options children model :: everywhere children

def everywhere : List Attribute → List Attribute
  | [] => []
  | declared :: rest => declared.withNested ++ everywhere rest
end

theorem mem_withNested_self (declared : Attribute) : declared ∈ declared.withNested := by
  cases declared <;> simp [withNested]

theorem everywhere_cons (declared : Attribute) (rest : List Attribute) :
    everywhere (declared :: rest) = declared.withNested ++ everywhere rest := rfl

theorem mem_everywhere {declared : Attribute} {siblings : List Attribute}
    (hmem : declared ∈ siblings) : declared ∈ everywhere siblings := by
  induction siblings with
  | nil => simp at hmem
  | cons first rest ih =>
      rw [everywhere_cons, List.mem_append]
      rcases List.mem_cons.mp hmem with rfl | hmem
      · exact .inl (mem_withNested_self declared)
      · exact .inr (ih hmem)

mutual
theorem usable_of_checkSiblings {entity : String} {seen : List String} :
    (siblings : List Attribute) → checkSiblings entity seen siblings = .ok () →
      ∀ declared ∈ everywhere siblings, Name.fault? declared.name = none
  | [], _ => by simp [everywhere]
  | first :: rest, hcheck => by
      simp only [checkSiblings, bind_eq_ok] at hcheck
      obtain ⟨identifier, hname, hcheck⟩ := hcheck
      split at hcheck
      · simp at hcheck
      simp only [bind_eq_ok, exists_unit] at hcheck
      have hfirst := usable_of_checkChildren first (Identifier.field_eq_ok.mp hname).1 hcheck.1
      have hrest := usable_of_checkSiblings rest hcheck.2
      intro declared hmem
      rw [everywhere_cons, List.mem_append] at hmem
      exact hmem.elim (hfirst declared) (hrest declared)

theorem usable_of_checkChildren {entity : String} :
    (declared : Attribute) → Name.fault? declared.name = none →
      declared.checkChildren entity = .ok () →
        ∀ inner ∈ declared.withNested, Name.fault? inner.name = none
  | .plain options shape, hname, _ => by
      intro inner hmem
      obtain rfl := List.mem_singleton.mp hmem
      exact hname
  | .nested options children model, hname, hcheck => by
      have hchildren := usable_of_checkSiblings children hcheck
      intro inner hmem
      rcases List.mem_cons.mp hmem with rfl | hmem
      · exact hname
      · exact hchildren inner hmem
end

theorem resolve_eq_ok {entity context requested : String} {siblings : List Attribute}
    {declared : Attribute} :
    resolve entity context siblings requested = .ok declared ↔
      ClientCall.lookup? siblings requested = some declared := by
  unfold resolve
  cases ClientCall.lookup? siblings requested <;> simp

theorem mem_of_lookup? {siblings : List Attribute} {requested : String} {declared : Attribute}
    (hlookup : ClientCall.lookup? siblings requested = some declared) : declared ∈ siblings :=
  List.mem_of_find?_eq_some hlookup

end Attribute

theorem DataSource.check_ok {declared : DataSource} (hcheck : declared.check = .ok ()) :
    Name.fault? declared.name = none ∧
      (∀ inner ∈ Attribute.everywhere declared.attributes, Name.fault? inner.name = none) ∧
      Attribute.checkRequest declared.name "read request" declared.attributes
        declared.api.readArguments = .ok () := by
  simp only [check, bind_eq_ok, exists_unit, Name.validate_eq_ok] at hcheck
  exact ⟨hcheck.1, Attribute.usable_of_checkSiblings _ hcheck.2.1, hcheck.2.2⟩

theorem Resource.check_ok {declared : Resource} (hcheck : declared.check = .ok ()) :
    Name.fault? declared.name = none ∧
      (∀ inner ∈ Attribute.everywhere declared.attributes, Name.fault? inner.name = none) ∧
      (∀ request ∈ declared.requests, Attribute.checkRequest declared.name request.1
        declared.attributes request.2.arguments = .ok ()) ∧
      ∀ requested ∈ declared.importAttributes, ∃ found,
        ClientCall.lookup? declared.attributes requested = some found := by
  simp only [check, bind_eq_ok, exists_unit, Name.validate_eq_ok, forM_eq_ok,
    Attribute.resolve_eq_ok, pure_eq_ok, and_true] at hcheck
  exact ⟨hcheck.1, Attribute.usable_of_checkSiblings _ hcheck.2.1, hcheck.2.2.1,
    hcheck.2.2.2⟩

end ProviderForge

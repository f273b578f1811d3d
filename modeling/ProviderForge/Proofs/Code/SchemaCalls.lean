import ProviderForge.Proofs.Code.Calls
import ProviderForge.Proofs.Code.Wrapper

namespace ProviderForge

open Code Result

namespace Attribute

mutual
def entryFragments : Attribute → List String
  | plain options _ => options.validators ++ options.planModifiers
  | nested options children _ =>
      schemaFragments children ++ (options.validators ++ options.planModifiers)

def schemaFragments : List Attribute → List String
  | [] => []
  | declared :: rest => declared.entryFragments ++ schemaFragments rest
end

end Attribute

namespace Schema

theorem adds_expressions {fieldName context : String} {fragments : List String} {code : Code}
    (hcode : expressions fieldName context fragments = .ok code) :
    Adds code (fragmentCalls (fragments.map some)) := by
  unfold expressions at hcode
  cases fragments with
  | nil =>
      rw [← pure_eq_ok.mp hcode]
      exact .nil
  | cons first rest =>
      simp only [List.isEmpty_cons, Bool.false_eq_true, if_false, bind_eq_ok, pure_eq_ok] at hcode
      obtain ⟨codes, hcodes, rfl⟩ := hcode
      have hvector : remoteCalls (word "vec" ++ mark '!' ++ brackets (listed codes)) =
          remoteCalls (listed codes) ++ [] := rfl
      rw [← remoteCalls_fragments hcodes, ← remoteCalls_listed, ← List.append_nil
        (remoteCalls (listed codes)), ← hvector]
      exact .entry fieldName _

theorem remoteCalls_table (members : List Code) :
    remoteCalls (table members) = members.flatMap remoteCalls := by
  have htable : remoteCalls (table members) = remoteCalls (listed members) ++ [] ++ [] := rfl
  rw [htable, remoteCalls_listed, List.append_nil, List.append_nil]

theorem adds_leadingFields (declared : Attribute) : Adds (leadingFields declared) [] := by
  have hfields : Adds (leadingFields declared) ([] ++ [] ++ [] ++ []) := by
    unfold leadingFields
    refine Adds.append (Adds.append (Adds.append ?_ ?_) ?_) ?_
    · exact fun _ => rfl
    · cases declared.options.deprecation <;> exact fun _ => rfl
    · cases declared.options.requiredness <;> exact fun _ => rfl
    · cases declared.options.sensitive <;> exact fun _ => rfl
  exact hfields

/-- An entry makes the calls of what is nested in it, then those of its fragments. -/
theorem adds_assemble (declared : Attribute) {validators planModifiers customType nested : Code}
    {nestedCalls validatorCalls modifierCalls : List RemoteCall}
    (hcustomType : remoteCalls customType = []) (hnested : Adds nested nestedCalls)
    (hvalidators : Adds validators validatorCalls) (hmodifiers : Adds planModifiers modifierCalls) :
    Adds (assemble declared validators planModifiers customType nested)
      (nestedCalls ++ (validatorCalls ++ modifierCalls)) := by
  have hassembled : assemble declared validators planModifiers customType nested =
      entryType declared.kind ++ braces (leadingFields declared ++
        Code.entry "custom_type" customType ++ nested ++ validators ++ planModifiers ++
        remainingDefaults) := rfl
  have htype : Adds (Code.entry "custom_type" customType) [] := hcustomType ▸ .entry _ _
  have hdefaults : Adds remainingDefaults [] := fun _ => rfl
  have hcontent := (((((adds_leadingFields declared).append htype).append hnested).append
    hvalidators).append hmodifiers).append hdefaults
  intro rest
  have hentry : ∀ content : Code, remoteCalls (entryType declared.kind ++ braces content ++ rest) =
      remoteCalls content ++ remoteCalls rest := by
    cases declared.kind <;> exact fun _ => rfl
  rw [hassembled, hentry, hcontent.remoteCalls_eq]
  simp

theorem remoteCalls_member (declared : Attribute) {value : Code} {calls : List RemoteCall}
    (hvalue : Adds value calls) : remoteCalls (member declared value) = calls := by
  have hmember : remoteCalls (member declared value) =
      remoteCalls (value ++ mark '.' ++ word "into" ++ parens []) ++ [] := rfl
  have hinto : remoteCalls (mark '.' ++ (word "into" ++ parens [])) = [] := rfl
  rw [hmember, List.append_assoc, List.append_assoc, hvalue, hinto]
  simp

theorem adds_nestedObject (members : Code) :
    Adds (nestedObject members) (remoteCalls members) := by
  have hobject : remoteCalls (path ["schema", "NestedAttributeObject"] ++
      braces (Code.entry "attributes" members)) =
        remoteCalls (Code.entry "attributes" members) ++ [] := rfl
  have hentry := (Adds.entry "attributes" members).remoteCalls_eq
  rw [hentry, List.append_nil] at hobject
  exact hobject ▸ Adds.entry "nested_object" _

end Schema

namespace Attribute

open Schema

mutual
theorem schemaEntry_adds {parent : String} : (declared : Attribute) → {value : Code} →
    declared.schemaEntry parent = .ok value →
      Adds value (fragmentCalls (declared.entryFragments.map some))
  | .plain options shape, value, hvalue => by
      simp only [schemaEntry, bind_eq_ok, pure_eq_ok] at hvalue
      obtain ⟨validators, hvalidators, planModifiers, hmodifiers, rfl⟩ := hvalue
      have hcustomType : remoteCalls (plainType shape) = [] := by
        rcases shape with _ | _ | _ | ⟨⟨⟩⟩ | ⟨⟨⟩⟩ | _ <;> rfl
      rw [entryFragments, List.map_append, fragmentCalls_append]
      exact adds_assemble _ hcustomType .nil (adds_expressions hvalidators)
        (adds_expressions hmodifiers)
  | .nested options children record, value, hvalue => by
      simp only [schemaEntry, bind_eq_ok, pure_eq_ok] at hvalue
      obtain ⟨validators, hvalidators, planModifiers, hmodifiers, child, -, members, hmembers,
        rfl⟩ := hvalue
      have hbelow := schemaMembers_adds children hmembers
      rw [← remoteCalls_table] at hbelow
      simp only [entryFragments, List.map_append, fragmentCalls_append]
      rw [← hbelow]
      exact adds_assemble _ rfl (adds_nestedObject _) (adds_expressions hvalidators)
        (adds_expressions hmodifiers)

theorem schemaMembers_adds {parent : String} : (siblings : List Attribute) →
    {members : List Code} → schemaMembers parent siblings = .ok members →
      members.flatMap remoteCalls = fragmentCalls ((schemaFragments siblings).map some)
  | [], members, hmembers => by
      rw [schemaMembers, pure_eq_ok] at hmembers
      rw [← hmembers]
      rfl
  | first :: rest, members, hmembers => by
      simp only [schemaMembers, bind_eq_ok, pure_eq_ok] at hmembers
      obtain ⟨value, hvalue, others, hothers, rfl⟩ := hmembers
      have hfirst := remoteCalls_member first (schemaEntry_adds first hvalue)
      have hrest := schemaMembers_adds rest hothers
      rw [List.flatMap_cons, hfirst, hrest, schemaFragments, List.map_append,
        fragmentCalls_append]
end

theorem remoteCalls_schemaTable {parent : String} {siblings : List Attribute} {table : Code}
    (htable : schemaTable parent siblings = .ok table) :
    remoteCalls table = fragmentCalls ((schemaFragments siblings).map some) := by
  simp only [schemaTable, bind_eq_ok, pure_eq_ok] at htable
  obtain ⟨members, hmembers, rfl⟩ := htable
  rw [remoteCalls_table, schemaMembers_adds siblings hmembers]

end Attribute

end ProviderForge

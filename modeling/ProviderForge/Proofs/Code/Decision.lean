import ProviderForge.Code.ClientCall
import ProviderForge.Proofs.Name.Identifier

namespace ProviderForge

open Code Result

def Failure.IsTextual : Failure → Prop
  | .invalidIdentifier _ _ | .invalidFragment _ => True
  | _ => False

def Succeeds (result : Except Failure α) : Prop :=
  ∃ value, result = .ok value

instance (result : Except Failure α) : Decidable (Succeeds result) :=
  match result with
  | .ok value => isTrue ⟨value, rfl⟩
  | .error _ => isFalse fun ⟨_, hok⟩ => by cases hok

/-- The result is there exactly if `accepted` holds, and else a name or a fragment is to blame. -/
structure Decides (result : Except Failure α) (accepted : Prop) : Prop where
  succeeds_iff : Succeeds result ↔ accepted
  isTextual : ∀ failure, result = .error failure → failure.IsTextual

namespace Decides

variable {α β : Type} {first : Except Failure α} {accepted followed : Prop}

theorem of_ok {value : α} (hok : first = .ok value) : Decides first True where
  succeeds_iff := ⟨fun _ => trivial, fun _ => ⟨value, hok⟩⟩
  isTextual := by
    intro failure herror
    rw [hok] at herror
    cases herror

theorem of_error {failure : Failure} (herror : first = .error failure)
    (htextual : failure.IsTextual) : Decides first False where
  succeeds_iff := by
    refine ⟨?_, False.elim⟩
    rintro ⟨value, hok⟩
    rw [herror] at hok
    cases hok
  isTextual := by
    intro other hother
    rw [herror] at hother
    cases hother
    exact htextual

theorem congr (hdecides : Decides first accepted) (hiff : accepted ↔ followed) :
    Decides first followed :=
  ⟨hdecides.succeeds_iff.trans hiff, hdecides.isTextual⟩

theorem bind {next : α → Except Failure β} (hfirst : Decides first accepted)
    (hnext : ∀ value, first = .ok value → Decides (next value) followed) :
    Decides (first >>= next) (accepted ∧ followed) := by
  cases hresult : first with
  | ok value =>
      have haccepted : accepted := hfirst.succeeds_iff.mp ⟨value, hresult⟩
      rw [ok_bind]
      exact (hnext value hresult).congr (by simp [haccepted])
  | error failure =>
      have hrefused : ¬ accepted := by
        intro haccepted
        obtain ⟨value, hok⟩ := hfirst.succeeds_iff.mpr haccepted
        rw [hresult] at hok
        cases hok
      rw [error_bind]
      exact (of_error rfl (hfirst.isTextual failure hresult)).congr (by simp [hrefused])

theorem bind_pure {change : α → β} (hfirst : Decides first accepted) :
    Decides (first >>= fun value => pure (change value)) accepted := by
  have hbind : Decides (first >>= fun value => pure (change value)) (accepted ∧ True) :=
    hfirst.bind fun _ _ => of_ok rfl
  rwa [and_true] at hbind

theorem map (change : α → β) (hfirst : Decides first accepted) :
    Decides (change <$> first) accepted := by
  rw [map_eq_pure_bind]
  exact hfirst.bind_pure

theorem mapM {action : α → Except Failure β} {entries : List α} {accepts : α → Prop}
    (hall : ∀ entry ∈ entries, Decides (action entry) (accepts entry)) :
    Decides (entries.mapM action) (∀ entry ∈ entries, accepts entry) := by
  induction entries with
  | nil => exact (of_ok rfl).congr (by simp)
  | cons entry rest ih =>
      rw [List.mapM_cons]
      have hrest := ih fun other hmem => hall other (List.mem_cons_of_mem _ hmem)
      have hfirst := hall entry List.mem_cons_self
      exact (hfirst.bind fun value _ => hrest.bind_pure).congr (by simp)

end Decides

theorem Name.decides_validate (name : String) :
    Decides (Name.validate name) (Name.fault? name = none) := by
  cases hfault : Name.fault? name with
  | none => exact (Decides.of_ok (Name.validate_eq_ok.mpr hfault)).congr (by simp)
  | some fault =>
      have herror : Name.validate name = .error (.invalidIdentifier name fault) := by
        simp [Name.validate, hfault]
      exact (Decides.of_error herror trivial).congr (by simp)

namespace Identifier

theorem succeeds_field {name : String} :
    Succeeds (Identifier.field name) ↔ Name.fault? name = none := by
  simp [Succeeds, field_eq_ok]

theorem decides_field (name : String) :
    Decides (Identifier.field name) (Succeeds (Identifier.field name)) := by
  refine ⟨Iff.rfl, ?_⟩
  intro failure herror
  simp only [field, bind_eq_error] at herror
  rcases herror with hfault | ⟨_, _, hkeyword⟩
  · exact (Name.decides_validate name).isTextual failure hfault
  · split at hkeyword <;> cases hkeyword

theorem decides_type (name : String) :
    Decides (Identifier.type name) (Succeeds (Identifier.type name)) := by
  refine ⟨Iff.rfl, ?_⟩
  intro failure herror
  simp only [type, bind_eq_error] at herror
  rcases herror with hfault | ⟨_, _, hkeyword⟩
  · exact (Name.decides_validate name).isTextual failure hfault
  · split at hkeyword
    · cases hkeyword
      trivial
    · cases hkeyword

end Identifier

namespace Code

def Lexes (fragment : String) : Prop :=
  ∃ code, Code.ofText? fragment.toList = some code

theorem decides_ofFragment (context fragment : String) :
    Decides (ofFragment context fragment) (Lexes fragment) := by
  cases hcode : Code.ofText? fragment.toList with
  | none =>
      have herror : ofFragment context fragment = .error (.invalidFragment context) := by
        simp [ofFragment, hcode]
      exact (Decides.of_error herror trivial).congr (by simp [Lexes, hcode])
  | some code =>
      have hok : ofFragment context fragment = .ok code := by simp [ofFragment, hcode]
      exact (Decides.of_ok hok).congr (by simp [Lexes, hcode])

theorem decides_ofFragment? (context : String) (fragment : Option String) :
    Decides (ofFragment? context fragment) (∀ code ∈ fragment, Lexes code) := by
  cases fragment with
  | none => exact (Decides.of_ok rfl).congr (by simp)
  | some fragment => exact (decides_ofFragment context fragment).congr (by simp)

def accessPath (root : String) (members : List Identifier) : Code :=
  word root ++ members.flatMap fun member => mark '.' ++ ident member

theorem fieldPath_eq {root : String} (hroot : root = "self" ∨ root = "data")
    (members : List String) :
    fieldPath root members = accessPath root <$> members.mapM Identifier.field := by
  have hdata : Identifier.field "data" = .ok ⟨"data"⟩ := by rfl
  unfold fieldPath
  rcases hroot with rfl | rfl
  · rfl
  · rw [if_neg (by decide), hdata]
    rfl

theorem decides_fieldPath {root : String} (hroot : root = "self" ∨ root = "data")
    (members : List String) :
    Decides (fieldPath root members)
      (∀ member ∈ members, Succeeds (Identifier.field member)) := by
  rw [fieldPath_eq hroot]
  exact (Decides.mapM fun member _ => Identifier.decides_field member).map _

end Code

end ProviderForge

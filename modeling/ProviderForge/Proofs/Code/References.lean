import ProviderForge.Proofs.Code.Requests

/-!
References to attributes are looked at twice: when an entity is checked, and when the arguments of
a call are generated. Both times the same attribute is found, and the same fault.
-/

namespace ProviderForge

open Code Result

/-- Where a model can be read from: the receiver, or a variable. -/
def Code.IsOrigin (origin : String) : Prop :=
  origin = "self" ∨ Name.fault? origin = none

def Code.plainValue (origin name accessor : String) : Code :=
  invoke (field (word (Name.fieldText origin)) (word (Name.fieldText name))) accessor []

namespace Attribute

def argument? (siblings : List Attribute) (origin requested : String) : Option Code := do
  let declared ← ClientCall.lookup? siblings requested
  let accessor ← extractor? declared.kind
  return plainValue origin requested accessor

theorem fieldPath_of_usable {origin name : String} (horigin : IsOrigin origin)
    (hname : Name.fault? name = none) :
    fieldPath origin [name] =
      .ok (field (word (Name.fieldText origin)) (word (Name.fieldText name))) := by
  have hmember : Identifier.field name = .ok ⟨Name.fieldText name⟩ :=
    Identifier.field_eq_ok.mpr ⟨hname, rfl⟩
  unfold fieldPath
  rcases horigin with rfl | horigin
  · simp only [List.mapM_cons, List.mapM_nil, hmember]
    rfl
  · have hne : origin ≠ "self" := by
      rintro rfl
      exact absurd horigin (by decide)
    have hroot : Identifier.field origin = .ok ⟨Name.fieldText origin⟩ :=
      Identifier.field_eq_ok.mpr ⟨horigin, rfl⟩
    simp only [List.mapM_cons, List.mapM_nil, hmember, hne, if_false, hroot]
    rfl

theorem extraction_eq {declared : Attribute} {origin : String} (horigin : IsOrigin origin)
    (hname : Name.fault? declared.name = none) :
    declared.extraction origin =
      match extractor? declared.kind with
      | some accessor => .ok (plainValue origin declared.name accessor)
      | none => .error (.notPrimitive declared.name declared.kind.name) := by
  rw [extraction, fieldPath_of_usable horigin hname, ok_bind]
  cases extractor? declared.kind <;> rfl

theorem isSome_extractor? (kind : AttributeKind) :
    (extractor? kind).isSome = kind.isPrimitive := by
  cases kind <;> rfl

section

variable {siblings : List Attribute} {origin : String}
  (hnames : ∀ declared ∈ siblings, Name.fault? declared.name = none) (horigin : IsOrigin origin)

include hnames horigin

/-- Checking a reference is generating its argument without looking at the code. -/
theorem check_reference (entity context requested : String) :
    (resolve entity context siblings requested >>= fun declared =>
      if declared.kind.isPrimitive then return ()
      else throw (.notPrimitive requested declared.kind.name)) =
        (fun _ => ()) <$> match ClientCall.lookup? siblings requested with
          | some declared => declared.extraction origin
          | none => .error (.unknownAttribute entity requested context) := by
  unfold resolve
  cases hlookup : ClientCall.lookup? siblings requested with
  | none => rfl
  | some declared =>
      have hname : declared.name = requested := by simpa using List.find?_some hlookup
      have hkind := isSome_extractor? declared.kind
      rw [ok_bind]
      dsimp only
      rw [extraction_eq horigin (hnames declared (mem_of_lookup? hlookup)), ← hkind, hname]
      cases extractor? declared.kind <;> rfl

theorem argument?_of_ok {entity context requested : String} {code : Code}
    (hcode : (match ClientCall.lookup? siblings requested with
      | some declared => declared.extraction origin
      | none => .error (.unknownAttribute entity requested context)) = .ok code) :
    some code = argument? siblings origin requested := by
  unfold argument?
  cases hlookup : ClientCall.lookup? siblings requested with
  | none => simp [hlookup] at hcode
  | some declared =>
      have hname : declared.name = requested := by simpa using List.find?_some hlookup
      rw [hlookup] at hcode
      dsimp only at hcode
      rw [extraction_eq horigin (hnames declared (mem_of_lookup? hlookup)), hname] at hcode
      cases haccessor : extractor? declared.kind with
      | none => simp [haccessor] at hcode
      | some accessor =>
          rw [haccessor] at hcode
          simp [haccessor, ← Except.ok.inj hcode]

theorem checkRequest_eq (entity context : String) (requested : List String) :
    checkRequest entity context siblings requested =
      (fun _ => ()) <$> ClientCall.arguments entity context siblings requested origin :=
  forM_eq_map_mapM fun name _ => check_reference hnames horigin entity context name

/-- A request passes its check exactly if its arguments can be generated, and else both fail alike.
There is one argument for each name that is asked for, in that order. -/
theorem checkRequest_agrees (entity context : String) (requested : List String) :
    (checkRequest entity context siblings requested = .ok () ↔
        Succeeds (ClientCall.arguments entity context siblings requested origin)) ∧
      (∀ failure, checkRequest entity context siblings requested = .error failure ↔
        ClientCall.arguments entity context siblings requested origin = .error failure) ∧
      ∀ codes, ClientCall.arguments entity context siblings requested origin = .ok codes →
        codes.map some = requested.map (argument? siblings origin) := by
  refine ⟨?_, fun failure => ?_, fun codes hcodes => ?_⟩
  · rw [checkRequest_eq hnames horigin, map_eq_ok, Succeeds]
    simp
  · rw [checkRequest_eq hnames horigin, map_eq_error]
  · exact map_of_mapM_ok hcodes fun name code hcode => argument?_of_ok hnames horigin hcode

end

/-- Of two attributes with the name `key` the first is asked for, and the keyword `type` is read as
a raw identifier. A list cannot be asked for. -/
theorem checkRequest_agrees_repeated :
    let siblings := [Attribute.int "key" "", .list "key" "", .string "type" "", .set "tags" ""]
    ClientCall.arguments "keys" "read request" siblings ["type", "key"] "self" =
        .ok [plainValue "self" "type" "value_string", plainValue "self" "key" "value_int64"] ∧
      checkRequest "keys" "read request" siblings ["type", "key"] = .ok () ∧
      checkRequest "keys" "read request" siblings ["key", "tags", "name"] =
        .error (.notPrimitive "tags" "set") ∧
      ClientCall.arguments "keys" "read request" siblings ["key", "tags", "name"] "self" =
        .error (.notPrimitive "tags" "set") := by
  intro siblings
  have hnames : ∀ declared ∈ siblings, Name.fault? declared.name = none := by decide
  have hagrees := checkRequest_agrees hnames (.inl rfl) "keys" "read request"
  have harguments : ClientCall.arguments "keys" "read request" siblings ["type", "key"] "self" =
      .ok [plainValue "self" "type" "value_string", plainValue "self" "key" "value_int64"] := by
    rfl
  have hrefused : checkRequest "keys" "read request" siblings ["key", "tags", "name"] =
      .error (.notPrimitive "tags" "set") := by
    rfl
  exact ⟨harguments, (hagrees ["type", "key"]).1.mpr ⟨_, harguments⟩, hrefused,
    ((hagrees ["key", "tags", "name"]).2.1 _).mp hrefused⟩

end Attribute

end ProviderForge

import ProviderForge.Proofs.Code.ModelTree
import ProviderForge.Proofs.Definition.WellFormed
import ProviderForge.Proofs.Token.Identifier

namespace ProviderForge

open Code Result

def Record.HasDistinctNames (declaration : Code) : Prop :=
  ∃ names : List String, (fields declaration).map (nameBehind? "pub") = names.map some ∧
    names.Nodup

namespace Attribute

theorem checkSiblings_children {entity : String} {seen : List String} {siblings : List Attribute}
    (hcheck : checkSiblings entity seen siblings = .ok ()) :
    ∀ declared ∈ siblings, checkSiblings entity [] declared.children = .ok () := by
  induction siblings generalizing seen with
  | nil => simp
  | cons first rest ih =>
      simp only [checkSiblings, checkChildren_eq, bind_eq_ok] at hcheck
      obtain ⟨_, -, hcheck⟩ := hcheck
      split at hcheck
      · simp at hcheck
      · obtain ⟨_, hchildren, hrest⟩ := bind_eq_ok.mp hcheck
        exact List.forall_mem_cons.mpr ⟨hchildren, ih hrest⟩

end Attribute

namespace Model

theorem checked_below {entity : String} (blueprint : Blueprint)
    (hcheck : Attribute.checkSiblings entity [] blueprint.siblings = .ok ()) :
    ∀ inner ∈ blueprint.below, Attribute.checkSiblings entity [] inner.siblings = .ok () := by
  intro inner hmem
  obtain ⟨declared, hdeclared, hinner⟩ := List.mem_filterMap.mp hmem
  have hchildren := Attribute.checkSiblings_children hcheck declared hdeclared
  cases declared with
  | plain options shape => cases hinner
  | nested options children record =>
      obtain rfl := Option.some.inj hinner
      exact hchildren

theorem Records.distinct {entity : String} {fills : Bool} {blueprint : Blueprint} {model : Model}
    (hrecords : Records fills blueprint model)
    (hcheck : Attribute.checkSiblings entity [] blueprint.siblings = .ok ()) :
    Record.HasDistinctNames model.declaration := by
  obtain ⟨identifiers, hidentifiers, hfields⟩ := hrecords.fields
  have hnames := ((Attribute.checkSiblings_eq_ok blueprint.siblings List.nodup_nil).mp hcheck).2.1
  have hdistinct : identifiers.Nodup :=
    nodup_of_mapM_ok hidentifiers (fun _ _ _ => Identifier.field_inj) hnames
  refine ⟨identifiers.map (·.text), by rw [hfields, List.map_map]; rfl, ?_⟩
  refine List.Pairwise.map _ (fun first second hdifferent htext => hdifferent ?_) hdistinct
  cases first
  cases second
  exact congrArg Identifier.mk htext

theorem distinct_of_compile {entity name : String} {siblings : List Attribute} {sourceType : Code}
    {fills : Bool} {model : Model}
    (hcheck : Attribute.checkSiblings entity [] siblings = .ok ())
    (hmodel : (compile name siblings sourceType fills).result = .ok model) :
    ∀ inner ∈ model.flatten, Record.HasDistinctNames inner.declaration := by
  intro inner hinner
  obtain ⟨other, hother, hrecords⟩ :=
    (mirrors_of_compile hmodel).exists_records checked_below hcheck inner hinner
  exact hrecords.distinct hother

end Model

/-- A name makes the identifier of a field if it is an ASCII identifier that is not reserved, and
that of a type if it is no keyword either; any other name is refused. What comes of a name is one
token that is a name wherever it stands, and the fields of a record of checked attributes have
different names. -/
theorem Identifier.legal_and_faithful :
    (∀ name, (∃ identifier, field name = .ok identifier) ↔ Name.IsIdentifier name) ∧
      (∀ name, (∃ identifier, type name = .ok identifier) ↔
        Name.IsIdentifier name ∧ name ∉ Name.rawKeywords) ∧
      (∀ name, Answers (Name.isKeyword name) name (field name) ∧ Answers false name (type name) ∧
        Answers (Name.isKeyword (Name.snake name)) (Name.snake name) (method name) ∧
        Answers false (Name.upperCamel name ++ "Params") (parameters name)) ∧
      (∀ name identifier,
        field name = .ok identifier ∨ type name = .ok identifier ∨ method name = .ok identifier ∨
            parameters name = .ok identifier →
          identifier.IsLegal) ∧
      (∀ name other identifier, field name = .ok identifier → field other = .ok identifier →
        name = other) ∧
      ∀ entity siblings, Attribute.checkSiblings entity [] siblings = .ok () →
        ∀ name sourceType fills model,
          (Model.compile name siblings sourceType fills).result = .ok model →
            ∀ inner ∈ model.flatten, Record.HasDistinctNames inner.declaration := by
  refine ⟨fun _ => exists_field_eq_ok, fun name => ?_, fun name => ?_, fun name identifier => ?_,
    fun _ _ _ => field_inj, fun _ _ hcheck _ _ _ _ => Model.distinct_of_compile hcheck⟩
  · simp only [type_eq_ok, exists_and_left, exists_eq, and_true, Name.isIdentifier_iff,
      Name.isKeyword, List.contains_eq_mem, decide_eq_false_iff_not]
  · exact ⟨answers_field name, answers_type name, answers_field _, answers_type _⟩
  · rintro (hfield | htype | hmethod | hparameters)
    · exact isLegal_of_field hfield
    · exact isLegal_of_type htype
    · exact isLegal_of_field hmethod
    · exact isLegal_of_type hparameters

/-- A keyword names a field and a method, and the fields of teams have different names. -/
theorem Identifier.keyword_legal_and_faithful :
    (field "type" = .ok ⟨"r#type"⟩ ∧ IsLegal ⟨"r#type"⟩) ∧
      (method "Match" = .ok ⟨"r#match"⟩ ∧ IsLegal ⟨"r#match"⟩) ∧
      (∀ other, field other = .ok ⟨"r#type"⟩ → "type" = other) ∧
      ∃ model, (Model.compile "Project" Model.unfilledTeams (Model.remoteType ⟨"Project"⟩)
          true).result = .ok model ∧
        ∀ inner ∈ model.flatten, Record.HasDistinctNames inner.declaration := by
  obtain ⟨-, -, -, hlegal, hinjective, hdistinct⟩ := legal_and_faithful
  have hfield : field "type" = .ok ⟨"r#type"⟩ := by decide +kernel
  have hmethod : method "Match" = .ok ⟨"r#match"⟩ := by decide +kernel
  have hcheck : Attribute.checkSiblings "project" [] Model.unfilledTeams = .ok () := by
    decide +kernel
  have hcompiles : Succeeds (Model.compile "Project" Model.unfilledTeams
      (Model.remoteType ⟨"Project"⟩) true).result := by
    decide +kernel
  obtain ⟨model, hmodel⟩ := hcompiles
  exact ⟨⟨hfield, hlegal "type" _ (.inl hfield)⟩,
    ⟨hmethod, hlegal "Match" _ (.inr (.inr (.inl hmethod)))⟩,
    fun other => hinjective "type" other _ hfield,
    model, hmodel, hdistinct "project" _ hcheck _ _ _ _ hmodel⟩

end ProviderForge

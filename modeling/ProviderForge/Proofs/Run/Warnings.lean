import ProviderForge.Proofs.Code.Binding
import ProviderForge.Proofs.Code.ModelTree
import ProviderForge.Proofs.Run.Outcome

namespace ProviderForge

open Code Result

namespace Code

/-- The names of the records that a file declares. What groups hold is not looked at: a record
within a body is declared to that body alone. -/
def recordNames (file : Code) : List String :=
  (items file).filterMap (nameBehind? "struct")

theorem recordNames_append {left : Code} (hleft : isComplete left = true) (right : Code) :
    recordNames (left ++ right) = recordNames left ++ recordNames right := by
  rw [recordNames, items_append hleft, List.filterMap_append]
  rfl

end Code

namespace Lifecycle

variable (identifier : Identifier) (base role traitName : String) (content : Code)

theorem recordNames_entityType :
    recordNames (entityType identifier base role traitName) = [identifier.text] := by
  have hitems : ∃ members constructor, items (entityType identifier base role traitName) =
      [derive ["Debug", "Default"] ++ word "pub" ++ word "struct" ++ ident identifier ++
        braces members, word "impl" ++ ident identifier ++ braces constructor] := ⟨_, _, rfl⟩
  obtain ⟨members, constructor, hitems⟩ := hitems
  have hrecord : nameBehind? "struct" (derive ["Debug", "Default"] ++ word "pub" ++
      word "struct" ++ ident identifier ++ braces members) = some identifier.text := rfl
  rw [recordNames, hitems, List.filterMap_cons_some hrecord,
    List.filterMap_cons_none (nameBehind?_inherent _ _), List.filterMap_nil]

theorem recordNames_implementation (htrait : traitName ≠ "struct") :
    recordNames (implementation role traitName identifier content) = [] := by
  have hitems : items (implementation role traitName identifier content) =
      [implementation role traitName identifier content] := rfl
  have hnone : nameBehind? "struct" (implementation role traitName identifier content) = none := by
    by_cases hrole : role = "struct" <;> by_cases hname : identifier.text = "struct" <;>
      simp [nameBehind?, after, implementation, word, ident, Identifier.token, braces, path,
        separated, colons, operator, Token.isIdent, hrole, hname, htrait]
  rw [recordNames, hitems, List.filterMap_cons_none hnone, List.filterMap_nil]

theorem recordNames_front (htrait : traitName ≠ "struct") (rest : Code) :
    recordNames (front identifier base role traitName content ++ rest) =
      identifier.text :: recordNames rest := by
  have himports : recordNames imports = [] := rfl
  rw [recordNames_append rfl, front, recordNames_append rfl, recordNames_append rfl, himports,
    recordNames_entityType, recordNames_implementation _ _ _ _ htrait]
  rfl

end Lifecycle

namespace Model

theorem length_le_of_below {blueprint inner : Blueprint} (hinner : inner ∈ blueprint.below) :
    blueprint.name.length ≤ inner.name.length := by
  obtain ⟨declared, -, hdeclared⟩ := List.mem_filterMap.mp hinner
  cases declared with
  | plain options shape => cases hdeclared
  | nested options children record =>
      obtain rfl := Option.some.inj hdeclared
      simp only [Name.nestedType, String.length_append]
      omega

mutual
theorem Mirrors.length_le {fills : Bool} {blueprint : Blueprint} {model : Model} :
    Mirrors fills blueprint model → ∀ name ∈ model.typeNames, blueprint.name.length ≤ name.length
  | .node own below => by
      intro name hname
      rw [typeNames_eq, flatten_eq, List.map_cons, own.name, ← typeNamesOf_eq] at hname
      rcases List.mem_cons.mp hname with rfl | hname
      · exact Nat.le_refl _
      · obtain ⟨inner, hinner, hle⟩ := below.length_le name hname
        exact Nat.le_trans (length_le_of_below hinner) hle

theorem MirrorAll.length_le {fills : Bool} {blueprints : List Blueprint} {models : List Model} :
    MirrorAll fills blueprints models → ∀ name ∈ typeNamesOf models,
      ∃ blueprint ∈ blueprints, blueprint.name.length ≤ name.length
  | .nil => by simp [typeNamesOf]
  | .cons first rest => by
      intro name hname
      rcases List.mem_append.mp hname with hname | hname
      · exact ⟨_, List.mem_cons_self, first.length_le name hname⟩
      · obtain ⟨inner, hinner, hle⟩ := rest.length_le name hname
        exact ⟨inner, List.mem_cons_of_mem _ hinner, hle⟩
end

theorem nodup_eraseDups (names : List String) : names.eraseDups.Nodup := by
  induction hlength : names.length using Nat.strongRecOn generalizing names with
  | ind length ih =>
      cases names with
      | nil => simp
      | cons first rest =>
          have hshorter : (rest.filter fun name => !name == first).length < length := by
            have := List.length_filter_le (fun name => !name == first) rest
            rw [List.length_cons] at hlength
            omega
          rw [List.eraseDups_cons, List.nodup_cons]
          refine ⟨?_, ih _ hshorter _ rfl⟩
          simp [List.mem_eraseDups]

theorem repeated_eq (names : List String) :
    ∃ shared : List String, shared.Pairwise (· < ·) ∧
      (∀ name, name ∈ shared ↔ 1 < names.count name) ∧
      repeated names = shared.map fun name => (name, names.count name) := by
  let sorted := names.eraseDups.mergeSort fun left right => decide (left ≤ right)
  have hperm : sorted.Perm names.eraseDups := List.mergeSort_perm _ _
  have hascending : sorted.Pairwise (· < ·) := by
    have hle : sorted.Pairwise (· ≤ ·) := pairwise_sortedBy id names.eraseDups
    have hne : sorted.Pairwise (· ≠ ·) := hperm.nodup_iff.mpr (nodup_eraseDups names)
    refine (hle.and hne).imp fun hboth => String.not_le.mp fun hge => ?_
    exact hboth.2 (String.le_antisymm hboth.1 hge)
  refine ⟨sorted.filter fun name => decide (1 < names.count name), hascending.filter _, ?_, ?_⟩
  · intro name
    rw [List.mem_filter, hperm.mem_iff, List.mem_eraseDups, decide_eq_true_eq]
    exact ⟨And.right, fun hcount => ⟨List.count_pos_iff.mp (by omega), hcount⟩⟩
  · simp only [repeated, List.filter_map]
    rfl

end Model

def Event.warnsOfRepetition (event : Event) : Bool :=
  event.level == .warn && event.message == "synthesized type name declared more than once"

namespace Traced

variable {ε α β : Type}

theorem events_bind_of_ok {first : Traced ε α} {value : α} (hfirst : first.result = .ok value)
    (next : α → Traced ε β) :
    (first >>= next).events = first.events ++ (next value).events := by
  show (Traced.bind first next).events = _
  simp [Traced.bind, hfirst]

def warnings (traced : Traced ε α) : List Event :=
  traced.events.filter Event.warnsOfRepetition

theorem warnings_bind_of_ok {first : Traced ε α} {value : α} (hfirst : first.result = .ok value)
    (next : α → Traced ε β) :
    (first >>= next).warnings = first.warnings ++ (next value).warnings := by
  rw [warnings, events_bind_of_ok hfirst, List.filter_append]
  rfl

/-- The lemma above applies here, too, but only after unfolding what the result is of. -/
theorem warnings_ofExcept_bind {result : Except ε α} {value : α} (hresult : result = .ok value)
    (next : α → Traced ε β) : (ofExcept result >>= next).warnings = (next value).warnings := by
  rw [hresult]
  rfl

end Traced

namespace Model

mutual
theorem warnings_compileChild {parent : String} {fills : Bool} : (declared : Attribute) →
    ∀ {models : List Model}, (compileChild parent fills declared).result = .ok models →
      (compileChild parent fills declared).warnings = []
  | .plain options shape, _, _ => rfl
  | .nested options children record, models, hmodels => by
      simp only [compileChild, Traced.result_bind, Traced.result_report, Traced.result_ofExcept,
        ok_bind, bind_eq_ok] at hmodels
      obtain ⟨identifier, hidentifier, parts, hparts, nested, hnested, -⟩ := hmodels
      rw [compileChild, Traced.warnings_ofExcept_bind hidentifier, Traced.warnings_bind_of_ok rfl,
        Traced.warnings_ofExcept_bind hparts, Traced.warnings_bind_of_ok hnested,
        warnings_compileNested children hnested]
      rfl

theorem warnings_compileNested {parent : String} {fills : Bool} : (siblings : List Attribute) →
    ∀ {models : List Model}, (compileNested parent fills siblings).result = .ok models →
      (compileNested parent fills siblings).warnings = []
  | [], _, _ => rfl
  | first :: rest, models, hmodels => by
      simp only [compileNested, Traced.result_bind, bind_eq_ok] at hmodels
      obtain ⟨own, hown, others, hothers, -⟩ := hmodels
      rw [compileNested, Traced.warnings_bind_of_ok hown, Traced.warnings_bind_of_ok hothers,
        warnings_compileChild first hown, warnings_compileNested rest hothers]
      rfl
end

theorem warnings_compile {name : String} {siblings : List Attribute} {sourceType : Code}
    {fills : Bool} {model : Model}
    (hmodel : (compile name siblings sourceType fills).result = .ok model) :
    (compile name siblings sourceType fills).warnings = [] := by
  obtain ⟨declaration, fill, nested, hrecord, hnested, -⟩ := compile_ok.mp hmodel
  rw [compile, Traced.warnings_bind_of_ok rfl, Traced.warnings_ofExcept_bind hrecord,
    Traced.warnings_bind_of_ok hnested, warnings_compileNested siblings hnested]
  rfl

@[simp] theorem warnings_reportRepetitions (model : Model) (entity : String) :
    (model.reportRepetitions entity).warnings = model.repetitionEvents entity := by
  refine List.filter_eq_self.mpr fun event hevent => ?_
  obtain ⟨⟨name, count⟩, -, rfl⟩ := List.mem_map.mp hevent
  rfl

end Model

/-- The warnings on the way to a file tell the names that its records share, in ascending order and
each with the number of these records, and they tell nothing else. -/
structure WarnsOfRepetitions (entity : String) (generated : Traced Failure Code) (file : Code) :
    Prop where
  warned_iff : (∃ name, 1 < file.recordNames.count name) ↔
    ∃ event ∈ generated.events, event.warnsOfRepetition = true
  warnings : ∃ shared : List String, shared.Pairwise (· < ·) ∧
    (∀ name, name ∈ shared ↔ 1 < file.recordNames.count name) ∧
    generated.events.filter Event.warnsOfRepetition =
      shared.map fun name => .repeatedTypeName entity name (file.recordNames.count name)

/-- The entity's own record changes no warning, as no model bears its name. -/
theorem warnsOfRepetitions_of_models {entity typeName : String} {generated : Traced Failure Code}
    {file : Code} {model : Model} (hnames : file.recordNames = typeName :: model.typeNames)
    (hfresh : typeName ∉ model.typeNames)
    (hwarnings : generated.warnings = model.repetitionEvents entity) :
    WarnsOfRepetitions entity generated file := by
  obtain ⟨shared, hascending, hshared, hrepeated⟩ := Model.repeated_eq model.typeNames
  have hother : ∀ name, name ≠ typeName →
      file.recordNames.count name = model.typeNames.count name := fun name hne => by
    rw [hnames, List.count_cons_of_ne hne.symm]
  have hown : file.recordNames.count typeName = 1 := by
    rw [hnames, List.count_cons_self, List.count_eq_zero_of_not_mem hfresh]
  have hiff : ∀ name, name ∈ shared ↔ 1 < file.recordNames.count name := by
    intro name
    by_cases hname : name = typeName
    · subst hname
      have hzero : model.typeNames.count name = 0 := List.count_eq_zero_of_not_mem hfresh
      rw [hshared, hown]
      omega
    · rw [hshared, hother name hname]
  have hevents : generated.events.filter Event.warnsOfRepetition =
      shared.map fun name => .repeatedTypeName entity name (file.recordNames.count name) := by
    refine hwarnings.trans ?_
    rw [Model.repetitionEvents, hrepeated, List.map_map]
    refine List.map_congr_left fun name hmem => ?_
    have hne : name ≠ typeName := by
      rintro rfl
      exact hfresh (List.count_pos_iff.mp (Nat.lt_of_succ_lt ((hshared name).mp hmem)))
    rw [Function.comp_apply, hother name hne]
  refine ⟨⟨?_, ?_⟩, shared, hascending, hiff, hevents⟩
  · rintro ⟨name, hcount⟩
    have hmem : Event.repeatedTypeName entity name (file.recordNames.count name) ∈
        generated.events.filter Event.warnsOfRepetition := by
      rw [hevents]
      exact List.mem_map.mpr ⟨name, (hiff name).mpr hcount, rfl⟩
    exact ⟨_, List.mem_filter.mp hmem⟩
  · rintro ⟨event, hevent⟩
    have hmem := List.mem_filter.mpr hevent
    rw [hevents] at hmem
    obtain ⟨name, hname, -⟩ := List.mem_map.mp hmem
    exact ⟨name, (hiff name).mp hname⟩

theorem Model.not_mem_typeNames {beginning shorter longer : String} {siblings : List Attribute}
    {sourceType : Code} {fills : Bool} {model : Model}
    (hmodel : (compile (beginning ++ longer) siblings sourceType fills).result = .ok model)
    (hlength : shorter.length < longer.length) : beginning ++ shorter ∉ model.typeNames := by
  intro hmem
  have hle := (mirrors_of_compile hmodel).length_le _ hmem
  simp only [String.length_append] at hle
  omega

theorem DataSource.warnsOfRepetitions {declared : DataSource} {file : Code}
    (hfile : declared.code.result = .ok file) :
    WarnsOfRepetitions declared.name declared.code file := by
  simp only [code, Traced.result_bind, Traced.result_ofExcept, Traced.result_report,
    Traced.result_pure, ok_bind, bind_eq_ok, Except.ok.injEq] at hfile
  obtain ⟨ahead, hhead, compiled, hmodel, _, -, rfl⟩ := hfile
  have hcompiled := hmodel
  simp only [model, Traced.result_bind, Traced.result_ofExcept, bind_eq_ok] at hcompiled
  obtain ⟨sourceCode, hsource, hcompiled⟩ := hcompiled
  have hquiet : declared.model.warnings = [] := by
    rw [model, Traced.warnings_ofExcept_bind hsource, Model.warnings_compile hcompiled]
  have hwarnings : declared.code.warnings = compiled.repetitionEvents declared.name := by
    rw [code, Traced.warnings_bind_of_ok rfl, Traced.warnings_ofExcept_bind hhead,
      Traced.warnings_bind_of_ok hmodel, Traced.warnings_bind_of_ok rfl, hquiet,
      Model.warnings_reportRepetitions]
    exact List.append_nil _
  have hnames : (ahead ++ compiled.code).recordNames =
      Name.dataSourceType declared.name :: compiled.typeNames := by
    simp only [head, bind_eq_ok, Identifier.type_eq_ok, pure_eq_ok] at hhead
    obtain ⟨_, ⟨-, -, rfl⟩, _, -, _, -, _, -, rfl⟩ := hhead
    rw [← (Model.mirrors_of_compile hcompiled).names_code]
    exact Lifecycle.recordNames_front ⟨Name.dataSourceType declared.name⟩ "BaseDataSource"
      "datasource" "DataSource" _ (by decide) compiled.code
  exact warnsOfRepetitions_of_models hnames
    (Model.not_mem_typeNames hcompiled (by decide : "DataSource".length < _)) hwarnings

namespace Resource

theorem warnings_importImplementation {declared : Resource} {typeName : Identifier} {imports : Code}
    (himports : (importImplementation declared typeName).result = .ok imports) :
    (importImplementation declared typeName).warnings = [] := by
  simp only [importImplementation, Traced.result_bind, Traced.result_ofExcept, bind_eq_ok]
    at himports
  obtain ⟨_, hchecked, -⟩ := himports
  rw [importImplementation, Traced.warnings_ofExcept_bind hchecked]
  split
  · rfl
  · split <;> rfl

theorem recordNames_ahead {declared : Resource} {typeName : Identifier} {ahead imports : Code}
    (hhead : declared.head = .ok (typeName, ahead))
    (himports : (importImplementation declared typeName).result = .ok imports) (rest : Code) :
    (ahead ++ imports ++ rest).recordNames =
      Name.resourceType declared.name :: rest.recordNames := by
  simp only [head, bind_eq_ok, Identifier.type_eq_ok, pure_eq_ok, Prod.mk.injEq] at hhead
  obtain ⟨_, ⟨-, -, rfl⟩, _, -, _, -, _, -, _, -, _, -, _, -, rfl, rfl⟩ := hhead
  rw [List.append_assoc]
  refine (Lifecycle.recordNames_front ⟨Name.resourceType declared.name⟩ "BaseResource" "resource"
    "Resource" _ (by decide) (imports ++ rest)).trans (congrArg _ ?_)
  rcases importImplementation_ok himports with rfl | ⟨body, rfl⟩
  · rfl
  · rw [recordNames_append rfl, Lifecycle.recordNames_implementation _ _ _ _ (by decide)]
    rfl

theorem warnsOfRepetitions {declared : Resource} {file : Code}
    (hfile : declared.code.result = .ok file) :
    WarnsOfRepetitions declared.name declared.code file := by
  simp only [code, Traced.result_bind, Traced.result_ofExcept, Traced.result_report,
    Traced.result_pure, ok_bind, bind_eq_ok, Except.ok.injEq] at hfile
  obtain ⟨⟨typeName, ahead⟩, hhead, imports, himports, compiled, hmodel, _, -, rfl⟩ := hfile
  have hcompiled := hmodel
  simp only [model, Traced.result_bind, Traced.result_ofExcept, bind_eq_ok] at hcompiled
  obtain ⟨record, hrecord, hcompiled⟩ := hcompiled
  have hquiet : declared.model.warnings = [] := by
    rw [model, Traced.warnings_ofExcept_bind hrecord, Model.warnings_compile hcompiled]
  have hwarnings : declared.code.warnings = compiled.repetitionEvents declared.name := by
    rw [code, Traced.warnings_bind_of_ok rfl, Traced.warnings_ofExcept_bind hhead,
      Traced.warnings_bind_of_ok himports, Traced.warnings_bind_of_ok hmodel,
      Traced.warnings_bind_of_ok rfl, warnings_importImplementation himports, hquiet,
      Model.warnings_reportRepetitions]
    exact List.append_nil _
  have hnames : (ahead ++ imports ++ compiled.code).recordNames =
      Name.resourceType declared.name :: compiled.typeNames := by
    rw [← (Model.mirrors_of_compile hcompiled).names_code]
    exact recordNames_ahead hhead himports compiled.code
  exact warnsOfRepetitions_of_models hnames
    (Model.not_mem_typeNames hcompiled (by decide : "Resource".length < _)) hwarnings

end Resource

/-- Who generates the file of an entity is warned of a name exactly if records of the file share it,
once for each such name. -/
theorem shared_names_warned :
    (∀ (declared : DataSource) (file : Code), declared.code.result = .ok file →
      WarnsOfRepetitions declared.name declared.code file) ∧
    ∀ (declared : Resource) (file : Code), declared.code.result = .ok file →
      WarnsOfRepetitions declared.name declared.code file :=
  ⟨fun _ _ => DataSource.warnsOfRepetitions, fun _ _ => Resource.warnsOfRepetitions⟩

/-- Two siblings and a set further down come to name their items alike. -/
def alikeItems : DataSource where
  name := "project"
  description := ""
  api := { model := "Project", readMethod := "GetProject" }
  attributes :=
    [.setNested "teams" "" "Team" [.setNested "x" "" "Member" []],
      .setNested "teams_item_x" "" "Member" [], .setNested "teamsItemX" "" "Member" []]

theorem alikeItems_warned :
    (∃ file, alikeItems.code.result = .ok file ∧
      file.recordNames = ["ProjectDataSource", "ProjectDataSourceModel",
        "ProjectDataSourceModelTeamsItem", "ProjectDataSourceModelTeamsItemXItem",
        "ProjectDataSourceModelTeamsItemXItem", "ProjectDataSourceModelTeamsItemXItem"] ∧
      WarnsOfRepetitions "project" alikeItems.code file ∧
      ∃ event ∈ alikeItems.code.events, event.warnsOfRepetition = true) ∧
    ∃ file, BuiltIn.team.code.result = .ok file ∧
      WarnsOfRepetitions "team" BuiltIn.team.code file := by
  have halike : recordNames <$> alikeItems.code.result = .ok ["ProjectDataSource",
      "ProjectDataSourceModel", "ProjectDataSourceModelTeamsItem",
      "ProjectDataSourceModelTeamsItemXItem", "ProjectDataSourceModelTeamsItemXItem",
      "ProjectDataSourceModelTeamsItemXItem"] := by decide +kernel
  have hteam : Succeeds BuiltIn.team.code.result := by decide +kernel
  obtain ⟨alike, halike, hnames⟩ := map_eq_ok.mp halike
  obtain ⟨team, hteam⟩ := hteam
  have hwarns := shared_names_warned.1 _ _ halike
  refine ⟨⟨alike, halike, hnames, hwarns, hwarns.warned_iff.mp ?_⟩, team, hteam,
    shared_names_warned.2 _ _ hteam⟩
  exact ⟨"ProjectDataSourceModelTeamsItemXItem", by rw [hnames]; decide⟩

end ProviderForge

import ProviderForge.Code.DataSource
import ProviderForge.Code.Registry
import ProviderForge.Proofs.Code.Grammar.Lifecycle

namespace ProviderForge

open Code Grammar Result ClientCall

theorem Attribute.isExpression_extraction {declared : Attribute} {code : Code}
    (hcode : declared.extraction "data" = .ok code) : IsExpression true code := by
  simp only [extraction, bind_eq_ok] at hcode
  obtain ⟨value, hvalue, hcode⟩ := hcode
  obtain ⟨members, rfl, hmembers⟩ := fieldPath_ok (.inr rfl) hvalue
  have haccess : IsAccess true (accessPath "data" members) :=
    isAccess_accessPath (by decide) hmembers
  have hinvoke : ∀ methodName, Token.isName methodName = true →
      IsExpression true (invoke (accessPath "data" members) methodName []) :=
    fun methodName hname => (haccess.invoke hname .nil).isExpression
  cases hkind : declared.kind <;>
    simp only [hkind, extractor?, pure_eq_ok, throw_eq_ok] at hcode
  all_goals
    rw [← hcode]
    exact hinvoke _ (by decide)

theorem ClientCall.isExpression_arguments {entity context : String} {siblings : List Attribute}
    {requested : List String} {codes : List Code}
    (hcodes : arguments entity context siblings requested "data" = .ok codes) :
    ∀ code ∈ codes, IsExpression true code := by
  intro code hmem
  obtain ⟨name, -, hcode⟩ := exists_of_mapM_ok hcodes code hmem
  split at hcode
  · exact Attribute.isExpression_extraction hcode
  · cases hcode

namespace DataSource

/-- The data source brings no code that is spliced as it is. -/
structure IsFragmentFree (declared : DataSource) : Prop where
  attributes : Attribute.AreFragmentFree declared.attributes
  hooks : ∀ hooks, declared.api.strategy = .paginate hooks →
    hooks.initLoop = none ∧ hooks.preIterate = none ∧ hooks.postIterate = none

theorem isStatements_simpleRead {method : Identifier} (hmethod : Token.isName method.text = true)
    {arguments : List Code} (harguments : ∀ code ∈ arguments, IsExpression true code) :
    IsStatements (simpleRead method arguments) :=
  (isStatements_checked (Lifecycle.isAccess_clientCall hmethod (.listed harguments)) "read"
    .diagnostic).append
    (Lifecycle.isStatements_fillFrom (isCallee_word (by decide)).isExpression)

theorem isStatements_advance : IsStatements advance := by
  have hnext : IsCallee true (call (path ["sentryclient", "parse_next_pagination_cursor"])
      (reference response)) :=
    (isCallee_path (by decide)).call
      (.single (Lifecycle.isExpression_reference (by decide) (by decide)))
  have hcursor : IsStatements (assign cursor _) :=
    isStatements_assign (isAccess_fields (by decide) (by decide))
      (Lifecycle.beginsSentence_field (by decide)) hnext
  have hcondition : IsCallee false (invoke cursor "is_none" []) :=
    (isAccess_fields (by decide) (by decide)).invoke (by decide) .nil
  exact hcursor.append (.single
    (IsBlockLike.when hcondition.isExpression IsSentence.break.isStatements.isBody).isStatement)

theorem isStatements_paginatedRead {method element parameters : Identifier}
    (hmethod : Token.isName method.text = true) (helement : Token.isName element.text = true)
    (hparameters : Token.isName parameters.text = true) {arguments : List Code}
    (harguments : ∀ code ∈ arguments, IsExpression true code) :
    IsStatements (paginatedRead method element parameters arguments [] [] []) := by
  have hrecord : IsPath false (Model.remoteType element) :=
    isPath_append (isPath_word (by decide)) (.word (.inl helement))
  have hvector : IsPath false (word "Vec" ++ angled (Model.remoteType element)) :=
    .single (.angled (by decide) hrecord.isArgument)
  have hempty : IsCallee true (call (path ["Vec", "new"]) []) :=
    (isCallee_path (by decide)).call .nil
  have hinstances : IsStatement (word "let" ++ (word "mut" ++ word "model_instances") ++ mark ':' ++
      (word "Vec" ++ angled (Model.remoteType element)) ++ mark '=' ++
      Code.statement (call (path ["Vec", "new"]) [])) :=
    .bindTyped (.mutable (by decide)) hvector.isType hempty.isExpression
  have hdefault : IsCallee true (defaultOf (within (word "apiclient") (ident parameters))) :=
    isCallee_defaultOf (isPath_append (isPath_word (by decide)) (.word (.inl hparameters)))
  have hparams : IsStatement (bindMutable "params"
      (defaultOf (within (word "apiclient") (ident parameters)))) :=
    .bindMutable (by decide) hdefault.isExpression
  have hcall := Lifecycle.isAccess_clientCall hmethod (IsListing.terminated_append harguments
    (Lifecycle.isExpression_reference (by decide : Token.IsPathWord "params") (by decide)))
  have hextend : IsSentence (invoke (word "model_instances") "extend_from_slice" (word "body")) :=
    isSentence_invoke (isCallee_word (by decide)).isAccess (beginsSentence_access (by decide))
      (by decide) (.single (isCallee_word (by decide)).isExpression)
  have hpage := ((isStatements_checked hcall "read" .diagnostic).append
    hextend.isStatements).append isStatements_advance
  have hread := (((IsStatements.single hinstances).append (.single hparams)).append
    (.single (IsBlockLike.loop hpage.isBody).isStatement)).append
    (Lifecycle.isStatements_fillFrom
      (Lifecycle.isExpression_reference (by decide : Token.IsPathWord "model_instances")
        (by decide)))
  simpa [paginatedRead] using hread

theorem isStatements_readBody {declared : DataSource} (hfree : declared.IsFragmentFree)
    {code : Code} (hcode : readBody declared = .ok code) : IsStatements code := by
  simp only [readBody, bind_eq_ok] at hcode
  obtain ⟨method, hmethod, arguments, harguments, hcode⟩ := hcode
  have hname := Identifier.isName_of_field hmethod
  have hvalues := isExpression_arguments harguments
  cases hstrategy : declared.api.strategy with
  | simple =>
      simp only [hstrategy, pure_eq_ok] at hcode
      rw [← hcode]
      exact isStatements_simpleRead hname hvalues
  | paginate hooks =>
      obtain ⟨hinit, hpre, hpost⟩ := hfree.hooks hooks hstrategy
      simp only [hstrategy, hinit, hpre, hpost, ofFragment?, ok_bind, bind_eq_ok,
        pure_eq_ok] at hcode
      obtain ⟨element, helement, parameters, hparameters, rfl⟩ := hcode
      exact isStatements_paginatedRead hname (Identifier.isName_of_type helement)
        (Identifier.isName_of_type hparameters) hvalues

theorem isItems_head {declared : DataSource} (hfree : declared.IsFragmentFree)
    {code : Code} (hcode : head declared = .ok code) :
    IsItems code ∧ ∃ later, code = Lifecycle.imports ++ later := by
  simp only [head, bind_eq_ok, pure_eq_ok] at hcode
  obtain ⟨typeName, htypeName, model, hmodel, table, htable, body, hbody, rfl⟩ := hcode
  have hname := Identifier.isName_of_type htypeName
  have hrole : "datasource" = "datasource" ∨ "datasource" = "resource" := .inl rfl
  have hread := ((Lifecycle.isStatements_load (Identifier.isName_of_type hmodel)
    (by decide : Token.isName "config" = true)).append
    (isStatements_readBody hfree hbody)).append Lifecycle.isStatements_store
  have hreadMethod : IsMembers (Lifecycle.asyncMethod "datasource" "Read" "read" "req" _) :=
    Lifecycle.isMembers_asyncMethod hrole (by decide) (by decide) (by decide) (by decide)
      hread.isBody
  have hmembers : IsMembers (Lifecycle.metadata "datasource" declared.name ++
      Lifecycle.schema "datasource" declared.description table ++ _) :=
    ((Lifecycle.isMembers_metadata hrole declared.name).append
      (Lifecycle.isMembers_schema hrole declared.description
        (isCallee_schemaTable hfree.attributes htable))).append hreadMethod
  have htype : IsItems (Lifecycle.entityType typeName "BaseDataSource" "datasource" "DataSource") :=
    Lifecycle.isItems_entityType hname (by decide) hrole (by decide)
  refine ⟨(Lifecycle.isItems_imports.append htype).append
    (Lifecycle.isItems_implementation hrole (by decide) hname hmembers ?_), ?_⟩
  · simp [Lifecycle.metadata, Lifecycle.method, word]
  · exact ⟨_, List.append_assoc _ _ _⟩

theorem isReferable_sourceType {api : DataSourceApi} {code : Code}
    (hcode : sourceType api = .ok code) : IsType code ∧ IsReferable code := by
  simp only [sourceType, bind_eq_ok] at hcode
  obtain ⟨_, -, element, helement, hcode⟩ := hcode
  have hrecord := (Model.isPath_remoteType helement false).isType
  cases hstrategy : api.strategy with
  | simple =>
      simp only [hstrategy, pure_eq_ok] at hcode
      rw [← hcode]
      exact ⟨hrecord, Model.isReferable_remoteType element⟩
  | paginate hooks =>
      simp only [hstrategy, pure_eq_ok] at hcode
      rw [← hcode]
      exact ⟨hrecord.brackets, .inr ⟨_, _, _, rfl⟩⟩

theorem isFile_code {declared : DataSource} (hfree : declared.IsFragmentFree) {code : Code}
    (hcode : declared.code.result = .ok code) : ∃ file, SourceFile.ofCode code = .ok file := by
  simp only [DataSource.code, model, Traced.result_bind, Traced.result_ofExcept,
    Traced.result_report, Model.reportRepetitions, Traced.result_reportAll, Traced.result_pure,
    ok_bind, bind_eq_ok, Except.ok.injEq] at hcode
  obtain ⟨head, hhead, model, ⟨source, hsource, hmodel⟩, rfl⟩ := hcode
  obtain ⟨hitems, later, rfl⟩ := isItems_head hfree hhead
  obtain ⟨htype, hreferable⟩ := isReferable_sourceType hsource
  have hmodels := Model.isItems_compile hfree.attributes htype hreferable hmodel
  refine IsItems.isFile (hitems.append hmodels) ?_
  rw [List.append_assoc]
  exact Lifecycle.atMark_imports _

end DataSource

namespace Registry

theorem isExpression_constructor {moduleName typeName : String} {code : Code}
    (hcode : constructor moduleName typeName = .ok code) : IsExpression true code := by
  simp only [constructor, bind_eq_ok, pure_eq_ok] at hcode
  obtain ⟨moduleIdentifier, hmodule, typeIdentifier, htype, rfl⟩ := hcode
  have hpath : IsPath true (within (within (within (word "super") (ident moduleIdentifier))
      (ident typeIdentifier)) (word "new")) :=
    isPath_append (isPath_append (isPath_append (isPath_word (by decide))
      (.word (.inl (Identifier.isName_of_field hmodule))))
      (.word (.inl (Identifier.isName_of_type htype)))) (.word (.inl (by decide)))
  exact (IsCallee.path hpath).isExpression

theorem isItems_table {tableName role traitName : String} (hname : Token.isName tableName = true)
    (hrole : role = "datasource" ∨ role = "resource") (htrait : Token.isName traitName = true)
    {constructors : List Code} (hconstructors : ∀ code ∈ constructors, IsExpression true code) :
    IsItems (table tableName role traitName constructors) := by
  have htype : IsType (reference (brackets (call (word "fn") [] ++ arrow ++
      Lifecycle.boxedTrait role traitName))) :=
    (IsType.function (Lifecycle.isPath_boxedTrait hrole htrait).isType).brackets.reference
      (.inr ⟨_, _, _, rfl⟩)
  have hvalue : IsExpression true (reference (brackets (terminated constructors))) :=
    ((IsCallee.array (.terminated hconstructors)).isOperand.reference
      (.inr ⟨_, _, _, rfl⟩)).isExpression
  exact .static hname htype hvalue

theorem isFile_code {definitions : Definitions} {code : Code}
    (hcode : Registry.code definitions = .ok code) :
    ∃ file, SourceFile.ofCode code = .ok file := by
  simp only [Registry.code, bind_eq_ok, pure_eq_ok] at hcode
  obtain ⟨resources, hresources, dataSources, hdataSources, rfl⟩ := hcode
  have hprelude : IsItems (Code.statement (word "use" ++ path ["super", "prelude"] ++
      (colons ++ mark '*'))) :=
    .importing (by decide) (.inr rfl)
  have hresourceTable : IsItems (table "AUTO_GENERATED_RESOURCES" "resource" "Resource"
      resources) := by
    refine isItems_table (by decide) (.inr rfl) (by decide) fun code hmem => ?_
    obtain ⟨entity, -, hok⟩ := exists_of_mapM_ok hresources code hmem
    exact isExpression_constructor hok
  have hdataSourceTable : IsItems (table "AUTO_GENERATED_DATA_SOURCES" "datasource" "DataSource"
      dataSources) := by
    refine isItems_table (by decide) (.inl rfl) (by decide) fun code hmem => ?_
    obtain ⟨entity, -, hok⟩ := exists_of_mapM_ok hdataSources code hmem
    exact isExpression_constructor hok
  have hitems : IsItems (_ ++ _ ++ _) := (hprelude.append hresourceTable).append hdataSourceTable
  refine IsItems.isFile (by simpa using hitems) ?_
  simp [Code.statement, word]

end Registry

end ProviderForge

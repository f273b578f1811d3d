import ProviderForge.Proofs.Code.Grammar.Resource
import ProviderForge.Proofs.Definition.WellFormed
import ProviderForge.Proofs.Grammar.Contents
import ProviderForge.Proofs.Layout.Written

namespace ProviderForge

open Code Grammar Result

namespace Attribute

/-- How the fields of an attribute are documented. -/
def documentation (declared : Attribute) : String :=
  " " ++ declared.markdownDescription

/-- The item has a field with the documentation of the attribute. -/
def IsDocumentedBy (declared : Attribute) : Syntax → Prop :=
  Syntax.HasDocumented declared.documentation

theorem outerAttributes_documentation (text : String) (depth : Nat) {rest : Code}
    (hhash : rest.atMark ['#'] = false) :
    outerAttributes (read (depth + 4))
      (attributeMark (word "doc" ++ mark '=' ++ Code.text text) ++ rest) =
      .ok ([.documentation text], rest) :=
  outerAttributes_run rfl hhash

theorem namedField_documentation {parent : String} {declared : Attribute} {code : Code}
    (hcode : declared.fieldDeclaration parent = .ok code) {depth : Nat} (hdepth : 4 ≤ depth)
    {rest behind : Code} {node : Syntax}
    (hnode : namedField (read depth) (code ++ rest) = .ok (node, behind)) :
    ∃ mark type,
      node = .attributed [.documentation declared.documentation] (.prefixed mark type) := by
  simp only [fieldDeclaration, bind_eq_ok, pure_eq_ok] at hcode
  obtain ⟨identifier, hidentifier, type, -, rfl⟩ := hcode
  obtain ⟨depth, rfl⟩ := Nat.exists_eq_add_of_le' hdepth
  have hname := Identifier.isName_of_field hidentifier
  have hne := Token.ne_of_isName hname
  simp only [Token.keywords, List.forall_mem_cons] at hne
  simp only [List.append_assoc, namedField, Parser.bind_run] at hnode
  rw [← List.append_assoc (word "doc"), outerAttributes_documentation _ _ (by simp [word]),
    ok_bind] at hnode
  simp [word, mark, ident_eq_word, visibility, hne, hname, Syntax.withAttributes,
    -read_succ] at hnode
  obtain ⟨found, -, rfl, -⟩ := hnode
  exact ⟨_, _, rfl⟩

end Attribute

namespace Model

open Attribute

theorem holds_recordDeclaration {name parent : String} {identifier : Identifier}
    (hidentifier : Identifier.type name = .ok identifier) {siblings : List Attribute}
    {fields : List Code} (hfields : siblings.mapM (fieldDeclaration parent) = .ok fields)
    {declared : Attribute} (hmem : declared ∈ siblings) :
    Holds declared.IsDocumentedBy (recordDeclaration identifier fields) := by
  intro depth rest items hdepth hitems
  have hname := Identifier.isName_of_type hidentifier
  have hnonempty : recordDeclaration identifier fields ≠ [] := by
    simp [recordDeclaration, word]
  simp only [recordDeclaration, ident_eq_word, word, braces, Code.size_append, Code.size_cons,
    Code.size_nil, Token.size_ident, Token.size_group] at hdepth
  obtain ⟨depth, rfl⟩ := Nat.exists_eq_add_of_le' (by omega : 1 ≤ depth)
  have hreads : ∀ code ∈ fields, IsField code := by
    intro code hcode
    obtain ⟨_, -, hok⟩ := exists_of_mapM_ok hfields code hcode
    exact isField_fieldDeclaration hok
  obtain ⟨nodes, hnodes, hread⟩ := terminated_run hreads endsType_nil endsType_comma
    (by omega : _ ≤ depth)
  have hrun := recordItem_run ["Debug", "Clone", "Default", "PartialEq"] hname hnodes rest
  obtain ⟨node, later, hnode, rfl, -⟩ := hitems.cons hnonempty fun node behind hnode => by
    cases hrun.symm.trans hnode
    rfl
  cases hrun.symm.trans hnode
  obtain ⟨code, hcode, hdeclared⟩ := exists_mem_of_mapM_ok hfields declared hmem
  obtain ⟨behind, field, hfield, hfound⟩ := hread code hcode
  obtain ⟨mark, type, rfl⟩ := namedField_documentation hdeclared (by omega) hfound
  exact ⟨_, List.mem_cons_self, mark, type, hfield⟩

theorem passes_compileFill {name : String} {siblings : List Attribute} {sourceType code : Code}
    (hcode : compileFill name siblings sourceType = .ok code) : Passes code := by
  simp only [compileFill, bind_eq_ok, pure_eq_ok] at hcode
  obtain ⟨identifier, hidentifier, conversions, -, rfl⟩ := hcode
  exact passes_implementation (Identifier.isName_of_type hidentifier) _

/-- The code is passed, and holds a field with the documentation of each of the attributes. -/
def Documents (documented : List Attribute) (code : Code) : Prop :=
  Passes code ∧ ∀ declared ∈ documented, Holds declared.IsDocumentedBy code

theorem Documents.append {documented others : List Attribute} {first second : Code}
    (hfirst : Documents documented first) (hsecond : Documents others second) :
    Documents (documented ++ others) (first ++ second) := by
  refine ⟨hfirst.1.append hsecond.1, fun declared hmem => ?_⟩
  rcases List.mem_append.mp hmem with hmem | hmem
  · exact (hfirst.2 declared hmem).append_left second
  · exact hfirst.1.holds_append (hsecond.2 declared hmem)

theorem Documents.of_subset {documented fewer : List Attribute} {code : Code}
    (hcode : Documents documented code) (hfewer : fewer ⊆ documented) : Documents fewer code :=
  ⟨hcode.1, fun declared hmem => hcode.2 declared (hfewer hmem)⟩

theorem documents_of_passes {code : Code} (hcode : Passes code) : Documents [] code :=
  ⟨hcode, by simp⟩

theorem documents_compileRecord {name : String} {siblings : List Attribute} {sourceType : Code}
    {fills : Bool} {declaration : Code} {fill : Option Code}
    (hcode : compileRecord name siblings sourceType fills = .ok (declaration, fill)) :
    Documents siblings (declaration ++ fill.getD []) := by
  simp only [compileRecord, bind_eq_ok] at hcode
  obtain ⟨identifier, hidentifier, fields, hfields, hcode⟩ := hcode
  have hitems : IsItems (recordDeclaration identifier fields) :=
    isItems_recordDeclaration (Identifier.isName_of_type hidentifier) fun code hmem => by
      obtain ⟨declared, -, hok⟩ := exists_of_mapM_ok hfields code hmem
      exact isField_fieldDeclaration hok
  have hdeclaration : Documents siblings (recordDeclaration identifier fields) :=
    ⟨hitems.passes, fun _ hmem => holds_recordDeclaration hidentifier hfields hmem⟩
  cases fills with
  | false =>
      simp only [Bool.false_eq_true, if_false, pure_bind, pure_eq_ok, Prod.mk.injEq] at hcode
      obtain ⟨rfl, rfl⟩ := hcode
      exact (hdeclaration.append (documents_of_passes .nil)).of_subset (by simp)
  | true =>
      simp only [if_true, bind_eq_ok, map_eq_ok, pure_eq_ok, Prod.mk.injEq] at hcode
      obtain ⟨_, ⟨code, hcode, rfl⟩, rfl, rfl⟩ := hcode
      have hfill := documents_of_passes (passes_compileFill hcode)
      exact (hdeclaration.append hfill).of_subset (by simp)

theorem everywhere_subset (siblings : List Attribute) :
    everywhere siblings ⊆
      siblings ++ siblings.flatMap fun declared => everywhere declared.children := by
  intro inner hmem
  rw [List.mem_append, List.mem_flatMap]
  exact mem_everywhere_iff.mp hmem

mutual
theorem documents_compileNested {parent : String} {fills : Bool} :
    (siblings : List Attribute) → ∀ {models : List Model},
      (compileNested parent fills siblings).result = .ok models →
        Documents (siblings.flatMap fun declared => everywhere declared.children) (codeOf models)
  | [], models, hmodels => by
      simp only [compileNested, Traced.result_pure, Except.ok.injEq] at hmodels
      rw [← hmodels]
      exact documents_of_passes .nil
  | first :: rest, models, hmodels => by
      rw [compileNested] at hmodels
      simp only [Traced.result_bind, Traced.result_pure, bind_eq_ok, Except.ok.injEq] at hmodels
      obtain ⟨firstModels, hfirst, others, hothers, rfl⟩ := hmodels
      rw [codeOf_append, List.flatMap_cons]
      exact (documents_compileChild first hfirst).append (documents_compileNested rest hothers)

theorem documents_compileChild {parent : String} {fills : Bool} :
    (declared : Attribute) → ∀ {models : List Model},
      (compileChild parent fills declared).result = .ok models →
        Documents (everywhere declared.children) (codeOf models)
  | .plain options shape, models, hmodels => by
      simp only [compileChild, Traced.result_pure, Except.ok.injEq] at hmodels
      rw [← hmodels]
      exact documents_of_passes .nil
  | .nested options children record, models, hmodels => by
      rw [compileChild] at hmodels
      simp only [Traced.result_bind, Traced.result_ofExcept, Traced.result_report, ok_bind,
        Traced.result_pure, bind_eq_ok, Except.ok.injEq] at hmodels
      obtain ⟨_, -, ⟨declaration, fill⟩, hrecord, nested, hnested, rfl⟩ := hmodels
      have hmodel :
          Documents (everywhere children) (declaration ++ fill.getD [] ++ codeOf nested) :=
        ((documents_compileRecord hrecord).append
          (documents_compileNested children hnested)).of_subset (everywhere_subset children)
      simpa [codeOf, code, Attribute.children] using hmodel
end

theorem documents_compile {name : String} {siblings : List Attribute} {sourceType : Code}
    {fills : Bool} {model : Model}
    (hmodel : (compile name siblings sourceType fills).result = .ok model) :
    Documents (everywhere siblings) model.code := by
  unfold compile at hmodel
  simp only [Traced.result_bind, Traced.result_ofExcept, Traced.result_report, ok_bind,
    Traced.result_pure, bind_eq_ok, Except.ok.injEq] at hmodel
  obtain ⟨⟨declaration, fill⟩, hrecord, nested, hnested, rfl⟩ := hmodel
  exact ((documents_compileRecord hrecord).append
    (documents_compileNested siblings hnested)).of_subset (everywhere_subset siblings)

end Model

open Model

theorem Lifecycle.passes_implementation {role traitName : String} {identifier : Identifier}
    (hrole : role = "datasource" ∨ role = "resource") (htrait : Token.isName traitName = true)
    (hname : Token.isName identifier.text = true) (body : Code) :
    Passes (implementation role traitName identifier body) :=
  passes_traitImplementation (isPath_path (by simpa using ⟨.inl (isName_role hrole), .inl htrait⟩))
    hname body

theorem DataSource.documents_code {declared : DataSource} {code : Code}
    (hcode : declared.code.result = .ok code) :
    Documents (Attribute.everywhere declared.attributes) code ∧ code.atMark ['#'] = false := by
  simp only [DataSource.code, model, head, Traced.result_bind, Traced.result_ofExcept,
    Traced.result_report, Model.reportRepetitions, Traced.result_reportAll, Traced.result_pure,
    ok_bind, bind_eq_ok, pure_eq_ok, Except.ok.injEq] at hcode
  obtain ⟨_, ⟨typeName, htypeName, _, -, _, -, _, -, rfl⟩, model, ⟨_, -, hmodel⟩, rfl⟩ := hcode
  have hname := Identifier.isName_of_type htypeName
  have htype : IsItems
      (Lifecycle.entityType typeName "BaseDataSource" "datasource" "DataSource") :=
    Lifecycle.isItems_entityType hname (by decide) (.inl rfl) (by decide)
  have hfront := Lifecycle.isItems_imports.passes.append htype.passes
  have himplementation := Lifecycle.passes_implementation (.inl rfl)
    (by decide : Token.isName "DataSource" = true) hname
  refine ⟨(documents_of_passes (hfront.append (himplementation _))).append
    (documents_compile hmodel), ?_⟩
  simp only [List.append_assoc]
  exact Lifecycle.atMark_imports _

theorem Resource.documents_code {declared : Resource} {code : Code}
    (hcode : declared.code.result = .ok code) :
    Documents (Attribute.everywhere declared.attributes) code ∧ code.atMark ['#'] = false := by
  simp only [Resource.code, model, head, Traced.result_bind, Traced.result_ofExcept,
    Traced.result_report, Model.reportRepetitions, Traced.result_reportAll, Traced.result_pure,
    ok_bind, bind_eq_ok, pure_eq_ok, Except.ok.injEq] at hcode
  obtain ⟨_, ⟨typeName, htypeName, _, -, _, -, _, -, _, -, _, -, _, -, rfl⟩, imports, himports,
    model, ⟨_, -, hmodel⟩, rfl⟩ := hcode
  have hname := Identifier.isName_of_type htypeName
  have htype : IsItems (Lifecycle.entityType typeName "BaseResource" "resource" "Resource") :=
    Lifecycle.isItems_entityType hname (by decide) (.inr rfl) (by decide)
  have hfront := Lifecycle.isItems_imports.passes.append htype.passes
  have himplementation := Lifecycle.passes_implementation (.inr rfl)
    (by decide : Token.isName "Resource" = true) hname
  have himport := (isItems_importImplementation hname himports).passes
  refine ⟨(documents_of_passes ((hfront.append (himplementation _)).append himport)).append
    (documents_compile hmodel), ?_⟩
  simp only [List.append_assoc]
  exact Lifecycle.atMark_imports _

end ProviderForge

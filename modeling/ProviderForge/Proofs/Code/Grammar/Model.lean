import ProviderForge.Proofs.Code.Attributes
import ProviderForge.Proofs.Code.Grammar.Schema

namespace ProviderForge

open Code Grammar Result

namespace Fill

variable {origin target : Code}

theorem isCallee_wrapped {family constructor : String} {arguments : Code}
    (hfamily : Token.isName family = true) (hconstructor : Token.isName constructor = true)
    (harguments : IsArguments arguments) :
    IsCallee true (wrapped family constructor arguments) := by
  refine (isCallee_path ?_).call harguments
  intro name hmem
  simp only [List.mem_cons, List.not_mem_nil, or_false] at hmem
  rcases hmem with rfl | rfl | rfl
  · exact .inl (by decide)
  · exact .inl hfamily
  · exact .inl hconstructor

theorem isStatements_wrapped (htarget : IsAccess true target)
    (hbegins : BeginsSentence (target ++ mark '=')) {family constructor : String}
    {arguments : Code} (hfamily : Token.isName family = true)
    (hconstructor : Token.isName constructor = true) (harguments : IsArguments arguments) :
    IsStatements (assign target (wrapped family constructor arguments)) :=
  isStatements_assign htarget hbegins (isCallee_wrapped hfamily hconstructor harguments)

section

variable (horigin : ∀ allowsRecord, IsAccess allowsRecord origin) (hreferable : IsReferable origin)
  (htarget : IsAccess true target) (hbegins : BeginsSentence (target ++ mark '='))

include horigin htarget hbegins

theorem isStatements_string (options : AttributeOptions) :
    IsStatements (Fill.string options origin target) := by
  unfold Fill.string
  split
  · have hpattern : IsPattern (call (word "Some") (word "value")) :=
      .construction (by decide) (.single (.name (by decide)))
    have hcondition : IsExpression false (word "let" ++ call (word "Some") (word "value") ++
        mark '=' ++ invoke origin "as_ref" []) :=
      .binder hpattern ((horigin false).invoke (by decide) .nil).isOperand
    have hvalue : IsCallee true (invoke (word "value") "clone" []) :=
      (isCallee_word (by decide)).isAccess.invoke (by decide) .nil
    have hbody := isStatements_wrapped htarget hbegins
      (by decide : Token.isName "StringValue" = true)
      (by decide : Token.isName "new_or_null" = true) (.single hvalue.isExpression)
    have hotherwise := isStatements_wrapped htarget hbegins
      (by decide : Token.isName "StringValue" = true) (by decide : Token.isName "null" = true) .nil
    exact .single (IsBlockLike.whenElse hcondition hbody.isBody hotherwise.isBody).isStatement
  · split
    all_goals
      exact isStatements_wrapped htarget hbegins (by decide) (by decide)
        (.single ((horigin true).invoke (by decide) .nil).isExpression)

include hreferable in
theorem isStatements_plain (options : AttributeOptions) (shape : PlainShape) :
    IsStatements (Fill.plain options origin target shape) := by
  have hreference : IsExpression true (reference origin) :=
    ((horigin true).isOperand.reference hreferable).isExpression
  cases shape with
  | string => exact isStatements_string horigin htarget hbegins options
  | int | bool =>
      exact isStatements_wrapped htarget hbegins (by decide) (by decide)
        (.single (horigin true).isExpression)
  | list element | set element =>
      exact isStatements_wrapped htarget hbegins (by decide) (by decide) (.single hreference)
  | object =>
      exact isStatements_wrapped htarget hbegins (by decide) (by decide)
        (.single ((horigin true).invoke (by decide) .nil).isExpression)

theorem isStatements_nested {child : Identifier} (hchild : Token.isName child.text = true) :
    IsStatements (Fill.nested child origin target) := by
  have hmodel : IsStatement (bindMutable "model" (defaultOf (ident child))) :=
    .bindMutable (by decide) (isCallee_defaultOf (isPath_word (.inl hchild))).isExpression
  have hfill : IsCallee true (invoke (word "model") "fill" (word "item")) :=
    (isCallee_word (by decide)).isAccess.invoke (by decide)
      (.single (isCallee_word (by decide)).isExpression)
  have happend : IsSentence
      (invoke (word "diags") "append" (invoke (word "model") "fill" (word "item"))) :=
    isSentence_invoke (isCallee_word (by decide)).isAccess (beginsSentence_access (by decide))
      (by decide) (.single hfill.isExpression)
  have hbody : IsBody (bindMutable "model" (defaultOf (ident child)) ++
      statement (invoke (word "diags") "append" (invoke (word "model") "fill" (word "item"))) ++
      word "model") :=
    ((IsStatements.single hmodel).append happend.isStatements).body
      (isSentence_word (by decide) (by decide))
  have hclosure : IsExpression true (closure (word "item") (braces _)) :=
    .closure (by decide) (startsPlainly_group _ _ _) (IsCallee.block hbody).isExpression
  have hitems : IsCallee true (invoke origin "iter" []) := (horigin true).invoke (by decide) .nil
  have hmodels := hitems.isAccess.invoke (by decide : Token.isName "map" = true) (.single hclosure)
  have hcollected := hmodels.isAccess.invoke (by decide : Token.isName "collect" = true) .nil
  have harguments : IsArguments (terminated [invoke (invoke (invoke origin "iter" []) "map" _)
      "collect" []]) := .terminated (by simpa using hcollected.isExpression)
  rw [terminated_cons, terminated_nil, List.append_nil] at harguments
  exact isStatements_wrapped htarget hbegins (by decide) (by decide) harguments

end

end Fill

theorem isReferable_accessPath (members : List Identifier) :
    IsReferable (accessPath "data" members) :=
  .inl ⟨"data", _, rfl, by decide, by decide⟩

namespace Attribute

theorem isStatements_conversion {parent : String} {declared : Attribute}
    (hfree : declared.IsFragmentFree) {code : Code}
    (hcode : declared.conversion parent "data" "self" = .ok code) : IsStatements code := by
  simp only [conversion, hfree.customFill, bind_eq_ok] at hcode
  obtain ⟨origin, horigin, target, htarget, hcode⟩ := hcode
  obtain ⟨originMembers, rfl, horiginNames⟩ := fieldPath_ok (.inr rfl) horigin
  obtain ⟨targetMembers, rfl, htargetNames⟩ := fieldPath_ok (.inl rfl) htarget
  have haccess : ∀ allowsRecord, IsAccess allowsRecord (accessPath "data" originMembers) :=
    fun _ => isAccess_accessPath (by decide) horiginNames
  have htargetAccess : IsAccess true (accessPath "self" targetMembers) :=
    isAccess_accessPath (by decide) htargetNames
  have hbegins := beginsSentence_accessPath (by decide : "self" ∉ statementWords) targetMembers
  cases declared with
  | plain options shape =>
      rw [← pure_eq_ok.mp hcode]
      exact Fill.isStatements_plain haccess (isReferable_accessPath _) htargetAccess hbegins
        options shape
  | nested options children record =>
      simp only [bind_eq_ok, pure_eq_ok] at hcode
      obtain ⟨child, hchild, rfl⟩ := hcode
      exact Fill.isStatements_nested haccess htargetAccess hbegins
        (Identifier.isName_of_type hchild)

theorem isPath_valueType {parent : String} {declared : Attribute} {code : Code}
    (hcode : declared.valueType parent = .ok code) : IsPath false code := by
  cases declared with
  | plain options shape =>
      rw [← pure_eq_ok.mp hcode]
      cases shape with
      | string | int | bool | object => exact isPath_path (by decide)
      | list element | set element =>
          exact isPath_angled (by decide) (by decide)
            (Schema.isPath_elementCode element).isArgument
  | nested options children record =>
      simp only [valueType, bind_eq_ok, pure_eq_ok] at hcode
      obtain ⟨child, hchild, rfl⟩ := hcode
      exact isPath_angled (by decide) (by decide)
        (isPath_word (.inl (Identifier.isName_of_type hchild))).isArgument

theorem isField_fieldDeclaration {parent : String} {declared : Attribute} {code : Code}
    (hcode : declared.fieldDeclaration parent = .ok code) : IsField code := by
  simp only [fieldDeclaration, bind_eq_ok, pure_eq_ok] at hcode
  obtain ⟨identifier, hidentifier, valueType, hvalueType, rfl⟩ := hcode
  exact .documented (Identifier.isName_of_field hidentifier) (isPath_valueType hvalueType).isType

end Attribute

namespace Model

open Attribute

theorem isItems_recordDeclaration {identifier : Identifier}
    (hname : Token.isName identifier.text = true) {fields : List Code}
    (hfields : ∀ code ∈ fields, IsField code) :
    IsItems (recordDeclaration identifier fields) :=
  .record hname (.terminated hfields)

theorem isCallee_emptyDiagnostics : IsCallee true emptyDiagnostics :=
  isCallee_defaultOf (isPath_path (by decide))

theorem isStatements_diagnosticsBinding (siblings : List Attribute) :
    IsStatements (diagnosticsBinding siblings) := by
  unfold diagnosticsBinding
  split
  · exact .single (.bindMutable (by decide) isCallee_emptyDiagnostics.isExpression)
  · exact .single (.bind (.name (by decide)) isCallee_emptyDiagnostics.isExpression)

theorem isItems_fillDeclaration {identifier : Identifier}
    (hname : Token.isName identifier.text = true) {sourceType body : Code}
    (hsource : IsType sourceType) (hreferable : IsReferable sourceType) (hbody : IsBody body) :
    IsItems (fillDeclaration identifier sourceType body) := by
  have hinputs : IsInputs (mutableReference (word "self") ++ mark ',' ++ word "data" ++ mark ':' ++
      reference sourceType) := by
    refine .inr ⟨_, [word "data" ++ mark ':' ++ reference sourceType], by simp, .inr rfl, ?_⟩
    simpa using IsParameter.reference (by decide) hsource hreferable
  have houtput : IsOutput (arrow ++ path ["diag", "Diagnostics"]) :=
    .inr ⟨_, rfl, (isPath_path (by decide)).isType⟩
  have hmember := IsMembers.function (.inl rfl) (by decide : Token.isName "fill" = true) hinputs
    houtput hbody
  refine .implementation hname ?_ (by simp [word])
  simpa only [List.append_assoc] using hmember

theorem isItems_compileFill {name : String} {siblings : List Attribute}
    (hfree : AreFragmentFree siblings) {sourceType : Code} (hsource : IsType sourceType)
    (hreferable : IsReferable sourceType) {code : Code}
    (hcode : compileFill name siblings sourceType = .ok code) : IsItems code := by
  simp only [compileFill, bind_eq_ok, pure_eq_ok] at hcode
  obtain ⟨identifier, hidentifier, conversions, hconversions, rfl⟩ := hcode
  have hstatements : ∀ code ∈ conversions, IsStatements code := by
    intro code hmem
    obtain ⟨declared, hdeclared, hok⟩ := exists_of_mapM_ok hconversions code hmem
    exact isStatements_conversion (hfree.mem (List.mem_filter.mp hdeclared).1) hok
  exact isItems_fillDeclaration (Identifier.isName_of_type hidentifier) hsource hreferable
    (((isStatements_diagnosticsBinding _).append (.flatten hstatements)).body
      (isSentence_word (by decide) (by decide)))

theorem isItems_compileRecord {name : String} {siblings : List Attribute}
    (hfree : AreFragmentFree siblings) {sourceType : Code} (hsource : IsType sourceType)
    (hreferable : IsReferable sourceType) {fills : Bool} {declaration : Code} {fill : Option Code}
    (hcode : compileRecord name siblings sourceType fills = .ok (declaration, fill)) :
    IsItems (declaration ++ fill.getD []) := by
  simp only [compileRecord, bind_eq_ok] at hcode
  obtain ⟨identifier, hidentifier, fields, hfields, hcode⟩ := hcode
  have hdeclaration := isItems_recordDeclaration (Identifier.isName_of_type hidentifier)
    fun code hmem => by
      obtain ⟨declared, -, hok⟩ := exists_of_mapM_ok hfields code hmem
      exact isField_fieldDeclaration hok
  cases fills with
  | false =>
      simp only [Bool.false_eq_true, if_false, pure_bind, pure_eq_ok, Prod.mk.injEq] at hcode
      obtain ⟨rfl, rfl⟩ := hcode
      exact hdeclaration.append .nil
  | true =>
      simp only [if_true, bind_eq_ok, map_eq_ok, pure_eq_ok, Prod.mk.injEq] at hcode
      obtain ⟨_, ⟨code, hcode, rfl⟩, rfl, rfl⟩ := hcode
      exact hdeclaration.append (isItems_compileFill hfree hsource hreferable hcode)

theorem isPath_remoteType {name : String} {record : Identifier}
    (hrecord : Identifier.type name = .ok record) (isExpression : Bool) :
    IsPath isExpression (remoteType record) :=
  isPath_append (isPath_word (by decide)) (.word (.inl (Identifier.isName_of_type hrecord)))

theorem isReferable_remoteType (record : Identifier) : IsReferable (remoteType record) :=
  .inl ⟨"apiclient", _, rfl, by decide, by decide⟩

theorem codeOf_append (first later : List Model) :
    codeOf (first ++ later) = codeOf first ++ codeOf later := by
  induction first with
  | nil => rfl
  | cons model rest ih => simp [codeOf, ih]

mutual
theorem isItems_compileNested {parent : String} {fills : Bool} :
    (siblings : List Attribute) → AreFragmentFree siblings → ∀ {models : List Model},
      (compileNested parent fills siblings).result = .ok models → IsItems (codeOf models)
  | [], _, models, hmodels => by
      simp only [compileNested, Traced.result_pure, Except.ok.injEq] at hmodels
      rw [← hmodels]
      exact .nil
  | first :: rest, hfree, models, hmodels => by
      rw [compileNested] at hmodels
      simp only [Traced.result_bind, Traced.result_pure, bind_eq_ok, Except.ok.injEq] at hmodels
      obtain ⟨firstModels, hfirst, others, hothers, rfl⟩ := hmodels
      have hfirstItems := isItems_compileChild first
        (fun inner hmem => hfree inner (List.mem_append_left _ hmem)) hfirst
      have hotherItems := isItems_compileNested rest
        (fun inner hmem => hfree inner (List.mem_append_right _ hmem)) hothers
      rw [codeOf_append]
      exact hfirstItems.append hotherItems

theorem isItems_compileChild {parent : String} {fills : Bool} :
    (declared : Attribute) → (∀ inner ∈ declared.withNested, inner.IsFragmentFree) →
      ∀ {models : List Model}, (compileChild parent fills declared).result = .ok models →
        IsItems (codeOf models)
  | .plain options shape, _, models, hmodels => by
      simp only [compileChild, Traced.result_pure, Except.ok.injEq] at hmodels
      rw [← hmodels]
      exact .nil
  | .nested options children record, hfree, models, hmodels => by
      have hbelow : AreFragmentFree children := fun inner hmem =>
        hfree inner (List.mem_cons_of_mem _ hmem)
      rw [compileChild] at hmodels
      simp only [Traced.result_bind, Traced.result_ofExcept, Traced.result_report, ok_bind,
        Traced.result_pure, bind_eq_ok, Except.ok.injEq] at hmodels
      obtain ⟨identifier, hidentifier, ⟨declaration, fill⟩, hrecord, nested, hnested, rfl⟩ :=
        hmodels
      have hown := isItems_compileRecord hbelow (isPath_remoteType hidentifier false).isType
        (isReferable_remoteType identifier) hrecord
      have hmodel : IsItems ((declaration ++ fill.getD []) ++ codeOf nested) :=
        hown.append (isItems_compileNested children hbelow hnested)
      simpa [codeOf, code] using hmodel
end

theorem isItems_compile {name : String} {siblings : List Attribute}
    (hfree : AreFragmentFree siblings) {sourceType : Code} (hsource : IsType sourceType)
    (hreferable : IsReferable sourceType) {fills : Bool} {model : Model}
    (hmodel : (compile name siblings sourceType fills).result = .ok model) :
    IsItems model.code := by
  unfold compile at hmodel
  simp only [Traced.result_bind, Traced.result_ofExcept, Traced.result_report, ok_bind,
    Traced.result_pure, bind_eq_ok, Except.ok.injEq] at hmodel
  obtain ⟨⟨declaration, fill⟩, hrecord, nested, hnested, rfl⟩ := hmodel
  have hown := isItems_compileRecord hfree hsource hreferable hrecord
  exact hown.append (isItems_compileNested siblings hfree hnested)

end Model

end ProviderForge

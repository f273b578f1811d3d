import ProviderForge.Code.DataSource
import ProviderForge.Code.Resource
import ProviderForge.Proofs.Code.Options
import ProviderForge.Proofs.Token.Quoted

namespace ProviderForge

open Code Result

namespace Quoted

/-- Whether a literal is written as the literal of a text is. -/
def isQuotation (literal : String) : Bool :=
  (value? literal).any fun text => quote text == literal

@[simp] theorem isQuotation_quote (text : String) : isQuotation (quote text) = true := by
  simp [isQuotation, value?_quote_text]

theorem exists_of_isQuotation {literal : String} (hliteral : isQuotation literal = true) :
    ∃ text, literal = quote text := by
  rw [isQuotation, Option.any_eq_true] at hliteral
  obtain ⟨text, -, hquote⟩ := hliteral
  exact ⟨text, (eq_of_beq hquote).symm⟩

/-- The empty text stands for all texts; other literals stand for themselves. -/
def withoutText (literal : String) : String :=
  if isQuotation literal then quote "" else literal

@[simp] theorem withoutText_quote (text : String) : withoutText (quote text) = quote "" := by
  simp [withoutText]

theorem eq_or_quote_of_withoutText {literal other : String}
    (hliterals : withoutText literal = withoutText other) :
    literal = other ∨ ∃ left right, literal = quote left ∧ other = quote right := by
  unfold withoutText at hliterals
  split at hliterals
  next hliteral =>
    obtain ⟨left, rfl⟩ := exists_of_isQuotation hliteral
    split at hliterals
    next hother =>
      obtain ⟨right, rfl⟩ := exists_of_isQuotation hother
      exact .inr ⟨left, right, rfl, rfl⟩
    next => exact .inr ⟨left, "", rfl, hliterals.symm⟩
  next =>
    split at hliterals
    next hother =>
      obtain ⟨right, rfl⟩ := exists_of_isQuotation hother
      exact .inr ⟨"", right, hliterals, rfl⟩
    next => exact .inl hliterals

end Quoted

mutual
inductive Token.SameButTexts : Token → Token → Prop
  | same (token : Token) : Token.SameButTexts token token
  | text (value other : String) :
      Token.SameButTexts (.literal (Quoted.quote value)) (.literal (Quoted.quote other))
  | group (delimiter : Delimiter) {content other : Code}
      (hcontent : Code.SameButTexts content other) :
      Token.SameButTexts (.group delimiter content) (.group delimiter other)

/-- The same tokens in the same groups, everywhere but inside string literals. -/
inductive Code.SameButTexts : List Token → List Token → Prop
  | nil : Code.SameButTexts [] []
  | cons {first other : Token} {rest others : Code} (hfirst : Token.SameButTexts first other)
      (hrest : Code.SameButTexts rest others) :
      Code.SameButTexts (first :: rest) (other :: others)
end

mutual
def Token.withoutTexts : Token → Token
  | .literal spelling => .literal (Quoted.withoutText spelling)
  | .group delimiter content => .group delimiter (Code.withoutTexts content)
  | token => token

def Code.withoutTexts : List Token → Code
  | [] => []
  | token :: rest => token.withoutTexts :: Code.withoutTexts rest
end

namespace Code

@[simp] theorem withoutTexts_append (left right : Code) :
    withoutTexts (left ++ right) = withoutTexts left ++ withoutTexts right := by
  induction left with
  | nil => rfl
  | cons token rest ih => rw [List.cons_append, withoutTexts, withoutTexts, ih, List.cons_append]

@[simp] theorem withoutTexts_text (value : String) : withoutTexts (text value) = text "" := by
  simp [text, withoutTexts, Token.withoutTexts]

theorem withoutTexts_parens (inner : Code) :
    withoutTexts (parens inner) = parens (withoutTexts inner) := rfl

theorem withoutTexts_braces (inner : Code) :
    withoutTexts (braces inner) = braces (withoutTexts inner) := rfl

theorem withoutTexts_brackets (inner : Code) :
    withoutTexts (brackets inner) = brackets (withoutTexts inner) := rfl

theorem withoutTexts_listed (codes : List Code) :
    withoutTexts (listed codes) = listed (codes.map withoutTexts) := by
  induction codes with
  | nil => rfl
  | cons first rest ih =>
      cases rest with
      | nil => rfl
      | cons second rest =>
          have hcons : ∀ (first second : Code) (rest : List Code),
              listed (first :: second :: rest) = first ++ mark ',' ++ listed (second :: rest) :=
            fun _ _ _ => rfl
          rw [hcons, withoutTexts_append, withoutTexts_append, ih]
          rfl

theorem withoutTexts_terminated (codes : List Code) :
    withoutTexts (terminated codes) = terminated (codes.map withoutTexts) := by
  induction codes with
  | nil => rfl
  | cons first rest ih =>
      rw [terminated_cons, withoutTexts_append, withoutTexts_append, ih]
      rfl

end Code

/-! Code with nothing between its quotes tells all but its texts. -/

mutual
theorem Token.sameButTexts_of_withoutTexts : {left right : Token} →
    left.withoutTexts = right.withoutTexts → Token.SameButTexts left right
  | .ident _, .ident _, htokens => by
      obtain rfl := Token.ident.inj htokens
      exact .same _
  | .punct _ _, .punct _ _, htokens => by
      obtain ⟨rfl, rfl⟩ := Token.punct.inj htokens
      exact .same _
  | .literal _, .literal _, htokens => by
      rcases Quoted.eq_or_quote_of_withoutText (Token.literal.inj htokens) with
        rfl | ⟨left, right, rfl, rfl⟩
      · exact .same _
      · exact .text left right
  | .group delimiter _, .group _ _, htokens => by
      obtain ⟨rfl, hcontent⟩ := Token.group.inj htokens
      exact .group delimiter (Code.sameButTexts_of_withoutTexts hcontent)

theorem Code.sameButTexts_of_withoutTexts : {left right : Code} →
    withoutTexts left = withoutTexts right → Code.SameButTexts left right
  | [], [], _ => .nil
  | _ :: _, _ :: _, hcodes => by
      obtain ⟨hfirst, hrest⟩ := List.cons.inj hcodes
      exact .cons (Token.sameButTexts_of_withoutTexts hfirst)
        (Code.sameButTexts_of_withoutTexts hrest)
end

/-- Without the description and what a notice says. That there is a notice stays. -/
def AttributeOptions.withoutTexts (options : AttributeOptions) : AttributeOptions :=
  { options with description := "", deprecation := options.deprecation.map fun _ => "" }

def Attribute.forgetTexts : Attribute → Attribute :=
  rewrite AttributeOptions.withoutTexts id

theorem Attribute.name_forgetTexts (declared : Attribute) :
    declared.forgetTexts.name = declared.name := by
  simp [forgetTexts, name, AttributeOptions.withoutTexts]

def DataSource.forgetTexts (declared : DataSource) : DataSource :=
  { declared with
    description := "", attributes := declared.attributes.map Attribute.forgetTexts }

def Resource.forgetTexts (declared : Resource) : Resource :=
  { declared with
    description := "", attributes := declared.attributes.map Attribute.forgetTexts }

namespace Schema

/-- Only the parts of an entry that are code can tell it from another entry. -/
theorem withoutTexts_assemble (declared : Attribute) {nested remade : Code}
    (hnested : Code.withoutTexts nested = Code.withoutTexts remade)
    (validators planModifiers customType : Code) :
    Code.withoutTexts
        (assemble declared.forgetTexts validators planModifiers customType nested) =
      Code.withoutTexts (assemble declared validators planModifiers customType remade) := by
  cases hdeprecation : declared.options.deprecation <;>
    simp [assemble, Attribute.forgetTexts, AttributeOptions.withoutTexts, hdeprecation,
      withoutTexts_braces, withoutTexts_parens, entry, ownedText, invoke, call, field, hnested]

theorem withoutTexts_member (declared : Attribute) {value other : Code}
    (hvalue : Code.withoutTexts value = Code.withoutTexts other) :
    Code.withoutTexts (member declared.forgetTexts value) =
      Code.withoutTexts (member declared other) := by
  simp only [member, Attribute.name_forgetTexts, invoke, call, field, withoutTexts_parens,
    withoutTexts_append, hvalue]

theorem withoutTexts_table {members others : List Code}
    (hmembers : members.map Code.withoutTexts = others.map Code.withoutTexts) :
    Code.withoutTexts (table members) = Code.withoutTexts (table others) := by
  simp only [table, call, withoutTexts_append, withoutTexts_parens, withoutTexts_brackets,
    withoutTexts_listed, hmembers]

end Schema

namespace Attribute

-- Over the attribute and its children: an entry holds the entries below it.
mutual
theorem schemaEntry_forgetTexts (parent : String) : (declared : Attribute) →
    Code.withoutTexts <$> declared.forgetTexts.schemaEntry parent =
      Code.withoutTexts <$> declared.schemaEntry parent
  | plain options shape => by
      simp only [forgetTexts, rewrite_plain, schemaEntry]
      refine map_bind_congr_right fun validators => map_bind_congr_right fun planModifiers => ?_
      exact congrArg Except.ok (Schema.withoutTexts_assemble (.plain options shape) rfl _ _ _)
  | nested options children record => by
      have hmembers := schemaMembers_forgetTexts (Name.nestedType parent options.name) children
      simp only [forgetTexts, rewrite_nested, schemaEntry] at hmembers ⊢
      refine map_bind_congr_right fun validators => map_bind_congr_right fun planModifiers => ?_
      refine map_bind_congr_right fun child => ?_
      refine map_bind_congr hmembers fun members others hmembers => ?_
      have hnested : Code.withoutTexts (Schema.nestedObject (Schema.table members)) =
          Code.withoutTexts (Schema.nestedObject (Schema.table others)) := by
        simp only [Schema.nestedObject, entry, withoutTexts_append, withoutTexts_braces,
          Schema.withoutTexts_table hmembers]
      have hentry := Schema.withoutTexts_assemble (.nested options children record) hnested
      simp only [forgetTexts, rewrite_nested] at hentry
      exact congrArg Except.ok (hentry _ _ _)

theorem schemaMembers_forgetTexts (parent : String) : (siblings : List Attribute) →
    List.map Code.withoutTexts <$> schemaMembers parent (siblings.map forgetTexts) =
      List.map Code.withoutTexts <$> schemaMembers parent siblings
  | [] => rfl
  | declared :: rest => by
      rw [List.map_cons, schemaMembers, schemaMembers]
      refine map_bind_congr (schemaEntry_forgetTexts parent declared) fun _ _ hvalue => ?_
      refine map_bind_congr (schemaMembers_forgetTexts parent rest) fun _ _ hmembers =>
        congrArg Except.ok ?_
      rw [List.map_cons, List.map_cons, hmembers, Schema.withoutTexts_member declared hvalue]
end

theorem schemaTable_forgetTexts (parent : String) (siblings : List Attribute) :
    Code.withoutTexts <$> schemaTable parent (siblings.map forgetTexts) =
      Code.withoutTexts <$> schemaTable parent siblings := by
  rw [schemaTable, schemaTable]
  refine map_bind_congr (schemaMembers_forgetTexts parent siblings) fun _ _ hmembers => ?_
  exact congrArg Except.ok (Schema.withoutTexts_table hmembers)

theorem fieldDeclaration_forgetTexts (parent : String) (declared : Attribute) :
    Code.withoutTexts <$> declared.forgetTexts.fieldDeclaration parent =
      Code.withoutTexts <$> declared.fieldDeclaration parent := by
  have htype : declared.forgetTexts.valueType parent = declared.valueType parent := by
    cases declared <;> rfl
  rw [fieldDeclaration, fieldDeclaration, name_forgetTexts, htype]
  refine map_bind_congr_right fun identifier => map_bind_congr_right fun valueType => ?_
  refine congrArg Except.ok ?_
  simp only [attributeMark, withoutTexts_append, withoutTexts_brackets, withoutTexts_text]

theorem extraction_forgetTexts (declared : Attribute) (origin : String) :
    declared.forgetTexts.extraction origin = declared.extraction origin := by
  cases declared <;> rfl

end Attribute

namespace Model

open Attribute

variable (name : String) (siblings : List Attribute) (sourceType : Code) (fills : Bool)

theorem withoutTexts_recordDeclaration (identifier : Identifier) {fields others : List Code}
    (hfields : fields.map Code.withoutTexts = others.map Code.withoutTexts) :
    Code.withoutTexts (recordDeclaration identifier fields) =
      Code.withoutTexts (recordDeclaration identifier others) := by
  simp only [recordDeclaration, withoutTexts_append, withoutTexts_braces, withoutTexts_terminated,
    hfields]

theorem mapM_fieldDeclaration_forgetTexts :
    List.map Code.withoutTexts <$> (siblings.map forgetTexts).mapM (fieldDeclaration name) =
      List.map Code.withoutTexts <$> siblings.mapM (fieldDeclaration name) := by
  induction siblings with
  | nil => rfl
  | cons declared rest ih =>
      rw [List.map_cons, List.mapM_cons, List.mapM_cons]
      refine map_bind_congr (fieldDeclaration_forgetTexts name declared) fun _ _ hfield => ?_
      refine map_bind_congr ih fun _ _ hfields => congrArg Except.ok ?_
      rw [List.map_cons, List.map_cons, hfield, hfields]

/-- The fill operation is the same to the last token: nothing of it is free text. -/
theorem compileFill_forgetTexts :
    compileFill name (siblings.map forgetTexts) sourceType =
      compileFill name siblings sourceType := by
  apply compileFill_map <;> intro declared <;> cases declared <;> rfl

theorem compileRecord_forgetTexts :
    Prod.map Code.withoutTexts id <$>
        compileRecord name (siblings.map forgetTexts) sourceType fills =
      Prod.map Code.withoutTexts id <$> compileRecord name siblings sourceType fills := by
  rw [compileRecord, compileRecord, compileFill_forgetTexts]
  refine map_bind_congr_right fun identifier => ?_
  refine map_bind_congr (mapM_fieldDeclaration_forgetTexts name siblings) fun _ _ hfields => ?_
  have hdeclaration := withoutTexts_recordDeclaration identifier hfields
  cases fills with
  | false => exact congrArg Except.ok (Prod.ext hdeclaration rfl)
  | true => exact map_bind_congr_right fun _ => congrArg Except.ok (Prod.ext hdeclaration rfl)

def outline (model : Model) : Code :=
  Code.withoutTexts model.code

theorem withoutTexts_codeOf (models : List Model) :
    Code.withoutTexts (codeOf models) = (models.map outline).flatten := by
  induction models with
  | nil => rfl
  | cons model rest ih =>
      rw [codeOf, withoutTexts_append, ih, List.map_cons, List.flatten_cons, outline]

/-- The outline of a tree is put together from the record on top and the outlines below. -/
theorem outline_node {record other : Code × Option Code} {models remade : List Model}
    (hrecord : Prod.map Code.withoutTexts id record = Prod.map Code.withoutTexts id other)
    (hmodels : models.map outline = remade.map outline) :
    outline (node name record.1 record.2 models) = outline (node name other.1 other.2 remade) := by
  obtain ⟨hdeclaration, hfill⟩ := Prod.mk.inj hrecord
  rw [id, id] at hfill
  simp only [outline, code, withoutTexts_append, withoutTexts_codeOf, hdeclaration, hfill, hmodels]

mutual
theorem compileChild_forgetTexts (fills : Bool) : (declared : Attribute) → (parent : String) →
    List.map outline <$> (compileChild parent fills declared.forgetTexts).result =
      List.map outline <$> (compileChild parent fills declared).result
  | .plain _ _, _ => rfl
  | .nested options children record, parent => by
      have hrecord := compileRecord_forgetTexts (Name.nestedType parent options.name) children
      have hnested := compileNested_forgetTexts fills children
        (Name.nestedType parent options.name)
      simp only [forgetTexts, rewrite_nested, compileChild, Traced.result_bind,
        Traced.result_ofExcept, Traced.result_report, Traced.result_pure, ok_bind]
        at hrecord hnested ⊢
      refine map_bind_congr_right fun identifier => ?_
      refine map_bind_congr (hrecord _ fills) fun _ _ hparts => ?_
      refine map_bind_congr hnested fun _ _ hmodels => congrArg Except.ok ?_
      exact congrArg ([·]) (outline_node _ hparts hmodels)

theorem compileNested_forgetTexts (fills : Bool) : (siblings : List Attribute) →
    (parent : String) →
    List.map outline <$> (compileNested parent fills (siblings.map forgetTexts)).result =
      List.map outline <$> (compileNested parent fills siblings).result
  | [], _ => rfl
  | declared :: rest, parent => by
      simp only [List.map_cons, compileNested, Traced.result_bind, Traced.result_pure]
      refine map_bind_congr (compileChild_forgetTexts fills declared parent) fun _ _ hfirst => ?_
      refine map_bind_congr (compileNested_forgetTexts fills rest parent) fun _ _ hothers =>
        congrArg Except.ok ?_
      rw [List.map_append, List.map_append, hfirst, hothers]
end

theorem compile_forgetTexts :
    outline <$> (compile name (siblings.map forgetTexts) sourceType fills).result =
      outline <$> (compile name siblings sourceType fills).result := by
  simp only [compile, Traced.result_bind, Traced.result_ofExcept, Traced.result_report,
    Traced.result_pure, ok_bind]
  refine map_bind_congr (compileRecord_forgetTexts name siblings sourceType fills)
    fun _ _ hparts => ?_
  exact map_bind_congr (compileNested_forgetTexts fills siblings name) fun _ _ hmodels =>
    congrArg Except.ok (outline_node name hparts hmodels)

end Model

namespace ClientCall

theorem lookup?_forgetTexts (siblings : List Attribute) (requested : String) :
    lookup? (siblings.map Attribute.forgetTexts) requested =
      (lookup? siblings requested).map Attribute.forgetTexts := by
  simp only [lookup?, List.find?_map, Function.comp_def, Attribute.name_forgetTexts]

theorem arguments_forgetTexts (entity context : String) (siblings : List Attribute)
    (requested : List String) (origin : String) :
    arguments entity context (siblings.map Attribute.forgetTexts) requested origin =
      arguments entity context siblings requested origin := by
  rw [arguments, arguments]
  congr 1
  funext name
  rw [lookup?_forgetTexts]
  cases lookup? siblings name with
  | none => rfl
  | some declared => exact declared.extraction_forgetTexts origin

end ClientCall

namespace Lifecycle

theorem withoutTexts_schema (role description other : String) {table remade : Code}
    (htable : Code.withoutTexts table = Code.withoutTexts remade) :
    Code.withoutTexts (schema role description table) =
      Code.withoutTexts (schema role other remade) := by
  simp only [schema, method, assign, entry, ownedText, invoke, call, field, withoutTexts_append,
    withoutTexts_braces, withoutTexts_text, htable]

end Lifecycle

namespace DataSource

theorem readBody_forgetTexts (declared : DataSource) :
    readBody declared.forgetTexts = readBody declared := by
  simp only [readBody, forgetTexts, ClientCall.arguments_forgetTexts]

theorem head_forgetTexts (declared : DataSource) :
    Code.withoutTexts <$> head declared.forgetTexts = Code.withoutTexts <$> head declared := by
  rw [head, head, readBody_forgetTexts]
  refine map_bind_congr_right fun typeName => map_bind_congr_right fun model => ?_
  refine map_bind_congr (Attribute.schemaTable_forgetTexts _ declared.attributes)
    fun _ _ htable => map_bind_congr_right fun body => congrArg Except.ok ?_
  have hschema := Lifecycle.withoutTexts_schema "datasource" declared.forgetTexts.description
    declared.description htable
  have hname : declared.forgetTexts.name = declared.name := rfl
  simp only [hname, Lifecycle.implementation, withoutTexts_append, withoutTexts_braces, hschema]

theorem code_forgetTexts (declared : DataSource) :
    Code.withoutTexts <$> declared.forgetTexts.code.result =
      Code.withoutTexts <$> declared.code.result := by
  have hmodel : Model.outline <$> (model declared.forgetTexts).result =
      Model.outline <$> (model declared).result := by
    simp only [model, Traced.result_bind, Traced.result_ofExcept]
    exact map_bind_congr_right fun sourceType => Model.compile_forgetTexts ..
  simp only [code, Traced.result_bind, Traced.result_ofExcept, Traced.result_report,
    Traced.result_pure, ok_bind]
  refine map_bind_congr (head_forgetTexts declared) fun _ _ hhead => ?_
  refine map_bind_congr hmodel fun _ _ houtline => congrArg Except.ok ?_
  rw [withoutTexts_append, withoutTexts_append, hhead, ← Model.outline, houtline, Model.outline]

end DataSource

namespace Resource

open ClientCall

variable (declared : Resource)

theorem operationCall_forgetTexts (operation : Operation) (context : String) (trailing : Code) :
    operationCall declared.forgetTexts operation context trailing =
      operationCall declared operation context trailing := by
  simp only [operationCall, forgetTexts, ClientCall.arguments_forgetTexts]

variable (model : Identifier)

theorem createMethod_forgetTexts :
    createMethod declared.forgetTexts model = createMethod declared model := by
  rw [createMethod, operationCall_forgetTexts]
  rfl

theorem readMethod_forgetTexts :
    readMethod declared.forgetTexts model = readMethod declared model := by
  have hparts : ∀ options, listParts declared.forgetTexts options = listParts declared options := by
    intro options
    simp only [listParts, operationCall_forgetTexts]
    rfl
  simp only [readMethod, operationCall_forgetTexts, hparts]
  rfl

theorem updateMethod_forgetTexts :
    updateMethod declared.forgetTexts model = updateMethod declared model := by
  simp only [updateMethod, operationCall_forgetTexts]
  rfl

theorem deleteMethod_forgetTexts :
    deleteMethod declared.forgetTexts model = deleteMethod declared model := by
  simp only [deleteMethod, operationCall_forgetTexts]
  rfl

theorem checkImports_forgetTexts : checkImports declared.forgetTexts = checkImports declared := by
  have hlookup : ∀ requested, lookup? declared.forgetTexts.attributes requested =
      (lookup? declared.attributes requested).map Attribute.forgetTexts :=
    lookup?_forgetTexts declared.attributes
  rw [checkImports, checkImports]
  congr 1
  funext requested
  rw [hlookup]
  cases lookup? declared.attributes requested <;> rfl

theorem importImplementation_forgetTexts (typeName : Identifier) :
    importImplementation declared.forgetTexts typeName =
      importImplementation declared typeName := by
  rw [importImplementation, checkImports_forgetTexts]
  rfl

theorem head_forgetTexts :
    Prod.map id Code.withoutTexts <$> head declared.forgetTexts =
      Prod.map id Code.withoutTexts <$> head declared := by
  have hname : declared.forgetTexts.name = declared.name := rfl
  simp only [head, createMethod_forgetTexts, readMethod_forgetTexts, updateMethod_forgetTexts,
    deleteMethod_forgetTexts, hname]
  refine map_bind_congr_right fun typeName => ?_
  refine map_bind_congr (Attribute.schemaTable_forgetTexts _ declared.attributes)
    fun _ _ htable => map_bind_congr_right fun model => ?_
  refine map_bind_congr_right fun create => map_bind_congr_right fun read => ?_
  refine map_bind_congr_right fun update => map_bind_congr_right fun delete => ?_
  have hschema := Lifecycle.withoutTexts_schema "resource" declared.forgetTexts.description
    declared.description htable
  refine congrArg Except.ok (Prod.ext rfl ?_)
  simp only [Prod.map, id, Lifecycle.implementation, withoutTexts_append, withoutTexts_braces,
    hschema]

theorem code_forgetTexts :
    Code.withoutTexts <$> declared.forgetTexts.code.result =
      Code.withoutTexts <$> declared.code.result := by
  have hmodel : Model.outline <$> (model declared.forgetTexts).result =
      Model.outline <$> (model declared).result := by
    simp only [model, Traced.result_bind, Traced.result_ofExcept]
    exact map_bind_congr_right fun record => Model.compile_forgetTexts ..
  simp only [code, importImplementation_forgetTexts, Traced.result_bind, Traced.result_ofExcept,
    Traced.result_report, Traced.result_pure, ok_bind]
  refine map_bind_congr (head_forgetTexts declared) fun left right hhead => ?_
  obtain ⟨htype, hfront⟩ := Prod.mk.inj hhead
  rw [id, id] at htype
  rw [htype]
  refine map_bind_congr_right fun imports => ?_
  refine map_bind_congr hmodel fun _ _ houtline => congrArg Except.ok ?_
  rw [withoutTexts_append, withoutTexts_append, withoutTexts_append, withoutTexts_append, hfront,
    ← Model.outline, houtline, Model.outline]

end Resource

/-- Texts do not become code. Two entities that differ at most in their descriptions and in what
their deprecation notices say fail alike, or have files of the same tokens outside string
literals. -/
theorem texts_stay_in_literals :
    (∀ left right : DataSource, left.forgetTexts = right.forgetTexts →
      Alike Code.SameButTexts left.code.result right.code.result) ∧
    ∀ left right : Resource, left.forgetTexts = right.forgetTexts →
      Alike Code.SameButTexts left.code.result right.code.result := by
  refine ⟨fun left right hforgets => ?_, fun left right hforgets => ?_⟩
  · refine alike_of_map_eq ?_ fun _ _ => Code.sameButTexts_of_withoutTexts
    rw [← left.code_forgetTexts, hforgets, right.code_forgetTexts]
  · refine alike_of_map_eq ?_ fun _ _ => Code.sameButTexts_of_withoutTexts
    rw [← left.code_forgetTexts, hforgets, right.code_forgetTexts]

/-- The organization with texts that look like the ends of literals, comments and blocks. -/
def unquotedOrganization : DataSource :=
  { BuiltIn.organization with
    description := "\"; */ \\"
    attributes := BuiltIn.organization.attributes.map (Attribute.withOptions fun options =>
      { options with
        description := "\", \x7d) // \n"
        deprecation := options.deprecation.map fun _ => "\"#" }) }

theorem unquotedOrganization_sameButTexts :
    unquotedOrganization.forgetTexts = BuiltIn.organization.forgetTexts ∧
    ∃ file other, unquotedOrganization.code.result = .ok file ∧
      BuiltIn.organization.code.result = .ok other ∧ Code.SameButTexts file other := by
  have hforgets : unquotedOrganization.forgetTexts = BuiltIn.organization.forgetTexts := rfl
  have halike := texts_stay_in_literals.1 unquotedOrganization BuiltIn.organization hforgets
  have hsucceeds : Succeeds BuiltIn.organization.code.result := by decide +kernel
  obtain ⟨other, hother⟩ := hsucceeds
  rw [hother] at halike
  refine ⟨hforgets, ?_⟩
  generalize unquotedOrganization.code.result = result at halike
  cases halike with
  | ok hsame => exact ⟨_, other, rfl, hother, hsame⟩

end ProviderForge

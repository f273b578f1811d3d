import ProviderForge.Code.Lifecycle
import ProviderForge.Proofs.Code.Grammar.Client

namespace ProviderForge.Lifecycle

open Code Grammar ClientCall

theorem isItems_imports : IsItems imports := by
  have hcollections : IsItems
      (statement (word "use" ++ path ["std", "collections", "HashMap"] ++ [])) :=
    .importing (by decide) (.inl rfl)
  have hprelude : IsItems (statement (word "use" ++ path ["super", "prelude"] ++
      (colons ++ mark '*'))) :=
    .importing (by decide) (.inr rfl)
  have hboth : IsItems (_ ++ _) := hcollections.append hprelude
  simpa [imports, Code.statement] using hboth

/-- A file begins with its imports, and so with no attribute. -/
theorem atMark_imports (later : Code) : (imports ++ later).atMark ['#'] = false := by
  simp [imports, Code.statement, word]

theorem isName_role {role : String} (hrole : role = "datasource" ∨ role = "resource") :
    Token.isName role = true := by
  rcases hrole with rfl | rfl <;> decide

theorem isPath_boxedTrait {role traitName : String}
    (hrole : role = "datasource" ∨ role = "resource")
    (htrait : Token.isName traitName = true) : IsPath false (boxedTrait role traitName) := by
  have hpath : IsPath false (path [role, traitName]) :=
    isPath_path (by simpa using ⟨.inl (isName_role hrole), .inl htrait⟩)
  have hargument : IsArgument (word "dyn" ++ path [role, traitName]) :=
    ⟨⟨"dyn", _, rfl, by decide, by decide⟩, .traitObject hpath⟩
  exact .single (.angled (by decide) hargument)

theorem isItems_entityType {identifier : Identifier} {base role traitName : String}
    (hname : Token.isName identifier.text = true) (hbase : Token.isName base = true)
    (hrole : role = "datasource" ∨ role = "resource") (htrait : Token.isName traitName = true) :
    IsItems (entityType identifier base role traitName) := by
  have hfield : IsField (word "base" ++ mark ':' ++ word base) :=
    .plain (by decide) (isPath_word (.inl hbase)).isType
  have hrecord : IsItems (derive ["Debug", "Default"] ++ word "pub" ++ word "struct" ++
      word identifier.text ++ braces (terminated [word "base" ++ mark ':' ++ word base])) :=
    .record hname (.terminated (by simpa using hfield))
  have hdefault : IsCallee true (call (path ["Self", "default"]) []) :=
    (isCallee_path (by decide)).call .nil
  have hboxed : IsSentence (call (path ["Box", "new"]) (call (path ["Self", "default"]) [])) :=
    isSentence_pathCall (by decide) (by decide) (by decide) (.single hdefault.isExpression)
  have hmember := IsMembers.function (.inl rfl) (by decide : Token.isName "new" = true)
    (.inl rfl) (.inr ⟨_, rfl, (isPath_boxedTrait hrole htrait).isType⟩) hboxed.isBody
  have hmembers : IsItems (word "impl" ++ word identifier.text ++ braces _) :=
    .implementation hname hmember (by simp [word])
  have hboth : IsItems (_ ++ _) := hrecord.append hmembers
  simpa [entityType, entry, ident_eq_word] using hboth

section

variable {role stem methodName requestName : String} {body : Code}
  (hrole : role = "datasource" ∨ role = "resource")
  (hrequest : Token.isName (stem ++ "Request") = true)
  (hresponse : Token.isName (stem ++ "Response") = true)
  (hmethod : Token.isName methodName = true) (hname : Token.isName requestName = true)
  (hbody : IsBody body)

include hrole hrequest hresponse hname

theorem isInputs_method : IsInputs (reference (word "self") ++ mark ',' ++
    word requestName ++ mark ':' ++ reference (path [role, stem ++ "Request"]) ++ mark ',' ++
    word "resp" ++ mark ':' ++ mutableReference (path [role, stem ++ "Response"])) := by
  have hrequestType : IsType (path [role, stem ++ "Request"]) :=
    (isPath_path (by simpa using ⟨.inl (isName_role hrole), .inl hrequest⟩)).isType
  have hresponseType : IsType (path [role, stem ++ "Response"]) :=
    (isPath_path (by simpa using ⟨.inl (isName_role hrole), .inl hresponse⟩)).isType
  have hreferable : IsReferable (path [role, stem ++ "Request"]) :=
    .inl ⟨role, _, rfl, by rcases hrole with rfl | rfl <;> decide,
      by rcases hrole with rfl | rfl <;> decide⟩
  refine .inr ⟨reference (word "self"),
    [word requestName ++ mark ':' ++ reference (path [role, stem ++ "Request"]),
      word "resp" ++ mark ':' ++ mutableReference (path [role, stem ++ "Response"])],
    by simp, .inl rfl, ?_⟩
  simpa using ⟨.reference hname hrequestType hreferable,
    .mutableReference (by decide) hresponseType⟩

include hmethod hbody

theorem isMembers_method : IsMembers (method role stem methodName requestName body) := by
  have hmember := IsMembers.function (.inr (.inl rfl)) hmethod
    (isInputs_method hrole hrequest hresponse hname) (.inl rfl) hbody
  simpa [method] using hmember

theorem isMembers_asyncMethod :
    IsMembers (asyncMethod role stem methodName requestName body) := by
  have hmember := IsMembers.function (.inr (.inr rfl)) hmethod
    (isInputs_method hrole hrequest hresponse hname) (.inl rfl) hbody
  simpa [asyncMethod, method] using hmember

end

theorem beginsSentence_field {root member : String} (hroot : root ∉ statementWords) :
    BeginsSentence (fields (word root) [member] ++ mark '=') := by
  have hbegins := (beginsSentence_access hroot).append (word member ++ mark '=')
  simpa [fields, field] using hbegins

section

variable {role : String} (hrole : role = "datasource" ∨ role = "resource")

include hrole

theorem isMembers_metadata (entityName : String) : IsMembers (metadata role entityName) := by
  have hbody : IsStatements (assign (fields (word "resp") ["type_name"])
      (macroCall "format" (text ("\x7b\x7d_" ++ entityName) ++ mark ',' ++
        fields (word "req") ["provider_type_name"]))) :=
    isStatements_assign (isAccess_fields (by decide) (by decide))
      (beginsSentence_field (by decide)) (.macroCall (by decide) _)
  exact isMembers_method hrole (by decide) (by decide) (by decide) (by decide) hbody.isBody

theorem isMembers_schema (description : String) {table : Code} (htable : IsCallee true table) :
    IsMembers (schema role description table) := by
  have hentries : IsEntries (entry "markdown_description" (ownedText description) ++
      entry "attributes" table) :=
    IsEntries.append (.entry (by decide) (isCallee_ownedText description).isExpression)
      (.entry (by decide) htable.isExpression)
  have hbody : IsStatements (assign (fields (word "resp") ["schema"])
      (path ["schema", "Schema"] ++ braces (entry "markdown_description" (ownedText description) ++
        entry "attributes" table ++ remainingDefaults))) :=
    isStatements_assign (isAccess_fields (by decide) (by decide))
      (beginsSentence_field (by decide))
      (.record (isPath_path (by decide)) (isFields_remainingDefaults hentries))
  exact isMembers_method hrole (by decide) (by decide) (by decide) (by decide) hbody.isBody

theorem isItems_implementation {traitName : String} {identifier : Identifier} {body : Code}
    (htrait : Token.isName traitName = true) (hname : Token.isName identifier.text = true)
    (hbody : IsMembers body) (hhash : body.atMark ['#'] = false) :
    IsItems (implementation role traitName identifier body) :=
  .traitImplementation (isPath_path (by simpa using ⟨.inl (isName_role hrole), .inl htrait⟩))
    hname hbody hhash

end

theorem isStatements_load {model : Identifier} (hmodel : Token.isName model.text = true)
    {origin : String} (horigin : Token.isName origin = true) :
    IsStatements (load model origin) := by
  have hdata : IsStatement (bindMutable "data" (defaultOf (ident model))) :=
    .bindMutable (by decide) (isCallee_defaultOf (isPath_word (.inl hmodel))).isExpression
  have hrequest : IsAccess true (fields (word "req") [origin]) :=
    isAccess_fields (by decide) (by simpa using horigin)
  have hreceived : IsCallee true (invoke (fields (word "req") [origin]) "get"
      (mutableReference (word "data"))) :=
    hrequest.invoke (by decide)
      (.single (isCallee_word (by decide)).isOperand.mutableReference.isExpression)
  exact ((IsStatements.single hdata).append
    (isStatements_appendDiagnostics hreceived.isExpression)).append isStatements_bail

theorem isReferable_word {text : String} (hmutable : ¬ text = "mut") (hraw : ¬ text = "raw") :
    IsReferable (word text) :=
  .inl ⟨text, [], rfl, hmutable, hraw⟩

theorem isExpression_reference {text : String} (hword : Token.IsPathWord text)
    (hraw : ¬ text = "raw") : IsExpression true (reference (word text)) := by
  have hne := hword.ne "mut" (by decide)
  exact ((isCallee_word hword).isOperand.reference (isReferable_word hne hraw)).isExpression

theorem isStatements_fillFrom {origin : Code} (horigin : IsExpression true origin) :
    IsStatements (fillFrom origin) := by
  have hfill : IsCallee true (invoke (word "data") "fill" origin) :=
    (isCallee_word (by decide)).isAccess.invoke (by decide) (.single horigin)
  exact (isStatements_appendDiagnostics hfill.isExpression).append isStatements_bail

theorem isStatements_store : IsStatements store := by
  have hstate : IsAccess true (fields (word "resp") ["state"]) :=
    isAccess_fields (by decide) (by decide)
  have hset := hstate.invoke (by decide : Token.isName "set" = true)
    (.single (isExpression_reference (by decide : Token.IsPathWord "data") (by decide)))
  exact isStatements_appendDiagnostics hset.isExpression

theorem isAccess_clientCall {identifier : Identifier} (hname : Token.isName identifier.text = true)
    {arguments : Code} (harguments : IsArguments arguments) (allowsRecord : Bool) :
    IsAccess allowsRecord (call (field client (ident identifier)) arguments) :=
  ((isAccess_fields (by decide) (by decide)).invoke hname harguments).isAccess

end ProviderForge.Lifecycle

import ProviderForge.Proofs.Code.Grammar.Model

namespace ProviderForge

open Code Grammar Result

namespace ClientCall

theorem isAccess_diagnostics : IsAccess true diagnostics :=
  isAccess_fields (by decide) (by decide)

theorem isSentence_diagnostics {methodName : String} {arguments : Code}
    (hname : Token.isName methodName = true) (harguments : IsArguments arguments) :
    IsSentence (invoke diagnostics methodName arguments) := by
  refine isSentence_invoke isAccess_diagnostics ?_ hname harguments
  exact (beginsSentence_access (by decide : "resp" ∉ statementWords)).append
    (word "diagnostics" ++ mark '.')

theorem isStatements_appendDiagnostics {reported : Code} (hreported : IsExpression true reported) :
    IsStatements (appendDiagnostics reported) :=
  (isSentence_diagnostics (by decide) (.single hreported)).isStatements

theorem isStatements_addError (title : String) {message : Code}
    (hmessage : IsExpression true message) : IsStatements (addError title message) := by
  refine (isSentence_diagnostics (by decide) ?_).isStatements
  exact .cons (isCallee_text title).isExpression (.single hmessage)

theorem isCallee_formatted (template : String) : IsCallee true (formatted template) :=
  .macroCall (by decide) _

theorem isStatements_return : IsStatements (statement (word "return")) :=
  IsSentence.return.isStatements

theorem isStatements_bail : IsStatements bail := by
  have hcondition : IsCallee false (invoke diagnostics "has_error" []) :=
    (isAccess_fields (by decide) (by decide)).invoke (by decide) .nil
  exact .single (IsBlockLike.when hcondition.isExpression isStatements_return.isBody).isStatement

theorem isAccess_response (allowsRecord : Bool) : IsAccess allowsRecord response :=
  (isCallee_word (by decide)).isAccess

theorem isCallee_statusCode {name : String} (hname : Token.isName name = true) :
    IsCallee false (statusCode name) := by
  refine isCallee_path ?_
  simpa using ⟨by decide, by decide, .inl hname⟩

theorem isExpression_isNotSuccess : IsExpression false isNotSuccess :=
  .comparison (.inl rfl) (isAccess_response false) (by decide) .nil
    (isCallee_statusCode (by decide)).isOperand

theorem isPattern_holding {constructor variableName : String}
    (hconstructor : Token.isName constructor = true) (hname : Token.isName variableName = true) :
    IsPattern (call (word constructor) (word variableName)) :=
  .construction hconstructor (.single (.name hname))

theorem isStatements_bindBody {otherwise : Code} (hotherwise : IsBody otherwise) :
    IsStatements (bindBody otherwise) :=
  .single (.bindOrElse (isPattern_holding (by decide) (by decide)) (isAccess_response true)
    (by decide) .nil hotherwise)

theorem isBody_failure {reported : Code} (hreported : IsStatements reported) :
    IsBody (reported ++ statement (word "return")) :=
  (hreported.append isStatements_return).isBody

theorem isArms_failure {title : String} {message : Code} (hmessage : IsExpression true message) :
    IsArms (armBlock (call (word "Err") (word "err"))
      (addError title message ++ statement (word "return"))) :=
  .armBlock (isPattern_holding (by decide) (by decide))
    (isBody_failure (isStatements_addError title hmessage))

theorem isStatements_errorResult {value : Code} (hvalue : IsExpression true value) :
    IsStatements (errorResult value) := by
  have herror : IsCallee true (Code.call (word "Err") value) :=
    (isCallee_word (by decide)).call (.single hvalue)
  exact (IsSentence.returning herror.isExpression rfl (by decide)).isStatements

theorem isStatements_statusError (verb : String) :
    IsStatements (statement (invoke diagnostics "add_error"
      (text "Client Error" ++ mark ',' ++ macroCall "format" (statusArguments verb) ++
        mark ','))) := by
  have hmessage : IsExpression true (macroCall "format" (statusArguments verb)) :=
    (IsCallee.macroCall (by decide) _).isExpression
  have harguments : IsArguments (terminated
      [text "Client Error", macroCall "format" (statusArguments verb)]) :=
    .terminated (by simpa using ⟨(isCallee_text _).isExpression, hmessage⟩)
  refine (isSentence_diagnostics (by decide) ?_).isStatements
  simpa using harguments

section

variable {call : Code} (hcall : ∀ allowsRecord, IsAccess allowsRecord call)

include hcall

theorem isStatements_bindResponse (verb : String) : IsStatements (bindResponse call verb) := by
  have hresponse : IsArms (arm (Code.call (word "Ok") response) response) :=
    .arm (isPattern_holding (by decide) (by decide)) (isSentence_word (by decide) (by decide))
  have hselection : IsCallee true (choose (awaited call)
      (arm (Code.call (word "Ok") response) response ++
        armBlock (Code.call (word "Err") (word "err"))
          (addError "Client Error" (formatted (transportMessage verb)) ++
            statement (word "return")))) :=
    .choose (hcall false).await.isExpression
      (hresponse.append (isArms_failure (isCallee_formatted _).isExpression))
  exact .single (.bind (.name (by decide)) hselection.isExpression)

theorem isStatements_checked (verb : String) (failure : CallFailure) :
    IsStatements (checked call verb failure) := by
  cases failure with
  | diagnostic =>
      have hrefused : IsStatements (when isNotSuccess
          (statement (invoke diagnostics "add_error"
              (text "Client Error" ++ mark ',' ++
                macroCall "format" (statusArguments verb) ++ mark ',')) ++
            statement (word "return"))) :=
        .single (IsBlockLike.when isExpression_isNotSuccess
          (isBody_failure (isStatements_statusError verb))).isStatement
      have hempty : IsBody (addError "Client Error" (text (emptyMessage verb)) ++
          statement (word "return")) :=
        isBody_failure (isStatements_addError _ (isCallee_text _).isExpression)
      exact ((isStatements_bindResponse hcall verb).append hrefused).append
        (isStatements_bindBody hempty)
  | propagate =>
      have hmessage :
          IsExpression true (closure (word "err") (formatted (transportMessage verb))) :=
        .closure (by decide) (startsPlainly_ident _ _) (isCallee_formatted _).isExpression
      have hresponse : IsStatements (Code.bind response
          (invoke (awaited call) "map_err"
            (closure (word "err") (formatted (transportMessage verb))) ++ mark '?')) := by
        refine .single (.bind (.name (by decide)) ?_)
        exact ((hcall true).await.isAccess.invoke (by decide)
          (.single hmessage)).isAccess.attempt.isExpression
      have hrefused : IsStatements
          (when isNotSuccess (errorResult (macroCall "format" (statusArguments verb)))) :=
        .single (IsBlockLike.when isExpression_isNotSuccess
          (isStatements_errorResult (IsCallee.macroCall (by decide) _).isExpression).isBody
          ).isStatement
      have hempty : IsBody (errorResult (ownedText (emptyMessage verb))) :=
        (isStatements_errorResult (isCallee_ownedText _).isExpression).isBody
      exact (hresponse.append hrefused).append (isStatements_bindBody hempty)

end

end ClientCall

end ProviderForge

import ProviderForge.Code.Value

namespace ProviderForge

open Code

/-- How a failed call ends the surrounding code: with a diagnostic on the response, or with
an error returned from the enclosing closure. -/
inductive CallFailure
  | diagnostic
  | propagate
deriving DecidableEq, Repr

namespace ClientCall

def lookup? (siblings : List Attribute) (requested : String) : Option Attribute :=
  siblings.find? (·.name == requested)

def arguments (entity context : String) (siblings : List Attribute) (requested : List String)
    (origin : String) : Except Failure (List Code) :=
  requested.mapM fun name =>
    match lookup? siblings name with
    | some declared => declared.extraction origin
    | none => .error (.unknownAttribute entity name context)

def response : Code :=
  word "http_resp"

def diagnostics : Code :=
  fields (word "resp") ["diagnostics"]

def appendDiagnostics (reported : Code) : Code :=
  statement (invoke diagnostics "append" reported)

def addError (title : String) (message : Code) : Code :=
  statement (invoke diagnostics "add_error" (text title ++ mark ',' ++ message))

def formatted (template : String) : Code :=
  macroCall "format" (text template)

def bail : Code :=
  when (invoke diagnostics "has_error" []) (statement (word "return"))

def transportMessage (verb : String) : String :=
  "Unable to " ++ verb ++ ", got error: \x7berr\x7d"

def statusMessage (verb : String) : String :=
  "Unable to " ++ verb ++ ", got status code \x7b\x7d: \x7b\x7d"

def emptyMessage (verb : String) : String :=
  "Unable to " ++ verb ++ ", got empty response body"

def awaited (call : Code) : Code :=
  field call (word "await")

def statusCode (code : String) : Code :=
  path ["http", "StatusCode", code]

def status : Code :=
  invoke response "status" []

def statusValue : Code :=
  invoke status "as_u16" []

def statusArguments (verb : String) : Code :=
  listed [text (statusMessage verb), statusValue, invoke response "text" []]

def isNotSuccess : Code :=
  status ++ operator '!' '=' ++ statusCode "OK"

def bodyPattern : Code :=
  call (word "Some") (word "body")

/-- Binds the decoded payload to `body`, or runs `otherwise`. -/
def bindBody (otherwise : Code) : Code :=
  word "let" ++ bodyPattern ++ mark '=' ++ invoke response "json200" [] ++ word "else" ++
    braces otherwise ++ mark ';'

def bindResponse (call : Code) (verb : String) : Code :=
  bind response (choose (awaited call)
    (arm (Code.call (word "Ok") response) response ++
      armBlock (Code.call (word "Err") (word "err"))
        (addError "Client Error" (formatted (transportMessage verb)) ++
          statement (word "return"))))

def errorResult (value : Code) : Code :=
  statement (word "return" ++ Code.call (word "Err") value)

/-- A checked call; `verb` names the operation in its messages. -/
def checked (call : Code) (verb : String) : CallFailure → Code
  | .diagnostic =>
      bindResponse call verb ++
      when isNotSuccess
        (statement (invoke diagnostics "add_error"
            (text "Client Error" ++ mark ',' ++
              macroCall "format" (statusArguments verb) ++ mark ',')) ++
          statement (word "return")) ++
      bindBody (addError "Client Error" (text (emptyMessage verb)) ++ statement (word "return"))
  | .propagate =>
      bind response
        (invoke (awaited call) "map_err"
            (closure (word "err") (formatted (transportMessage verb))) ++ mark '?') ++
      when isNotSuccess (errorResult (macroCall "format" (statusArguments verb))) ++
      bindBody (errorResult (ownedText (emptyMessage verb)))

end ClientCall

end ProviderForge

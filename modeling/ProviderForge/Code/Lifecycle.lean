import ProviderForge.Code.ClientCall
import ProviderForge.Model

namespace ProviderForge.Lifecycle

open Code ClientCall

def imports : Code :=
  statement (word "use" ++ path ["std", "collections", "HashMap"]) ++
    statement (word "use" ++ path ["super", "prelude"] ++ colons ++ mark '*')

def boxedTrait (role traitName : String) : Code :=
  word "Box" ++ angled (word "dyn" ++ path [role, traitName])

def entityType (identifier : Identifier) (base role traitName : String) : Code :=
  derive ["Debug", "Default"] ++
  word "pub" ++ word "struct" ++ ident identifier ++
    braces (entry "base" (word base)) ++
  word "impl" ++ ident identifier ++ braces
    (word "pub" ++ word "fn" ++ call (word "new") [] ++ arrow ++ boxedTrait role traitName ++
      braces (call (path ["Box", "new"]) (call (path ["Self", "default"]) [])))

/-- A method that takes a request and fills in a response, both named after its stem. -/
def method (role stem methodName requestName : String) (body : Code) : Code :=
  word "fn" ++ call (word methodName)
      (reference (word "self") ++ mark ',' ++
        word requestName ++ mark ':' ++ reference (path [role, stem ++ "Request"]) ++ mark ',' ++
        word "resp" ++ mark ':' ++ mutableReference (path [role, stem ++ "Response"])) ++
    braces body

def asyncMethod (role stem methodName requestName : String) (body : Code) : Code :=
  word "async" ++ method role stem methodName requestName body

def metadata (role entityName : String) : Code :=
  method role "Metadata" "metadata" "req"
    (assign (fields (word "resp") ["type_name"])
      (macroCall "format"
        (text ("\x7b\x7d_" ++ entityName) ++ mark ',' ++
          fields (word "req") ["provider_type_name"])))

def schema (role description : String) (table : Code) : Code :=
  method role "Schema" "schema" "_req"
    (assign (fields (word "resp") ["schema"])
      (path ["schema", "Schema"] ++ braces
        (entry "markdown_description" (ownedText description) ++
          entry "attributes" table ++ remainingDefaults)))

def implementation (role traitName : String) (identifier : Identifier) (body : Code) : Code :=
  word "impl" ++ path [role, traitName] ++ word "for" ++ ident identifier ++ braces body

def load (model : Identifier) (origin : String) : Code :=
  bindMutable "data" (defaultOf (ident model)) ++
    appendDiagnostics (invoke (fields (word "req") [origin]) "get"
      (mutableReference (word "data"))) ++
    bail

def fillFrom (origin : Code) : Code :=
  appendDiagnostics (invoke (word "data") "fill" origin) ++ bail

def store : Code :=
  appendDiagnostics (invoke (fields (word "resp") ["state"]) "set" (reference (word "data")))

def client : Code :=
  fields (word "self") ["base", "client"]

end ProviderForge.Lifecycle

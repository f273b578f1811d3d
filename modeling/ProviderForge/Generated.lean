import ProviderForge.Failure
import ProviderForge.Grammar.File
import ProviderForge.Layout.File

namespace ProviderForge

structure GeneratedFile where
  path : String
  content : String
deriving DecidableEq, Repr, Inhabited

namespace GeneratedFile

def header : String :=
  "// Code generated by providergen. DO NOT EDIT.\n\n"

/-- The text of a file with this code, which has to be a file by itself. -/
def contentOf (code : Code) : Except Failure String :=
  match SourceFile.ofCode code with
  | .ok file => .ok (header ++ file.text)
  | .error fault => .error (.invalidFile fault)

def render (path : String) (code : Code) : Except Failure GeneratedFile := do
  return ⟨path, ← contentOf code⟩

end GeneratedFile

end ProviderForge

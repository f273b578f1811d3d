import ProviderForge.Definition.BuiltIn
import ProviderForge.Definition.Decode
import ProviderForge.Disk.Tree
import ProviderForge.Event
import ProviderForge.Json.Reader
import ProviderForge.Yaml.Document

namespace ProviderForge

inductive Format
  | json
  | yaml
deriving DecidableEq, Repr, Inhabited

namespace Format

def name : Format → String
  | json => "JSON"
  | yaml => "YAML"

def ofPath (path : String) : Except Failure Format :=
  match Path.extension? path with
  | some "json" => return .json
  | some "yaml" | some "yml" => return .yaml
  | _ => throw (.invalidConfiguration
      s!"Unsupported definitions file '{path}': expected a .json, .yaml or .yml extension")

def decode (format : Format) (content : List Char) : Except Fault Definitions :=
  match format with
  | json => Json.Reader.decode content (Definitions.ofDocument .text)
  | yaml => Yaml.decode content (Definitions.ofDocument .yaml)

def parse (format : Format) (content : String) : Except Failure Definitions :=
  (format.decode content.toList).mapError fun fault =>
    .invalidConfiguration s!"Invalid {format.name} definitions: {fault.message}"

end Format

namespace Definitions

def readFile (tree : Tree) (path : String) : Except Failure String :=
  (tree.read path).mapError fun fault =>
    .invalidConfiguration s!"Unable to read definitions file '{path}': {fault.message}"

/-- The definitions in the file at `path`, or the built-in ones without a path. -/
def load (tree : Tree) (path : Option String) : Traced Failure Definitions := do
  match path with
  | none => do
      Traced.report .builtInDefinitions
      return BuiltIn.definitions
  | some path => do
      let format ← Format.ofPath path
      let content ← readFile tree path
      let definitions ← format.parse content
      Traced.report (.loadedDefinitions path definitions.dataSources.length
        definitions.resources.length)
      return definitions

end Definitions

end ProviderForge

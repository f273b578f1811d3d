import ProviderForge.Yaml.Cursor

namespace ProviderForge.Yaml

inductive Style
  | plain
  | singleQuoted
  | doubleQuoted
  | literal
  | folded
deriving DecidableEq, Repr

/-- Escapes in a tag name octets, which need not make up characters. -/
abbrev Octets := List UInt8

def Octets.ofString (text : String) : Octets :=
  text.toUTF8.toList

/-- A tag is a handle, which stands for leading octets, and a suffix. -/
structure TagName where
  handle : String
  suffix : Octets
deriving DecidableEq, Repr

inductive Token.Kind
  | versionDirective (major minor : Nat)
  | tagDirective (handle : String) (leader : Octets)
  | documentStart
  | documentEnd
  | streamEnd
  | blockSequenceStart
  | blockMappingStart
  | blockEnd
  | flowSequenceStart
  | flowSequenceEnd
  | flowMappingStart
  | flowMappingEnd
  | blockEntry
  | flowEntry
  | key
  | value
  | reference (name : String)
  | anchor (name : String)
  | tag (name : TagName)
  | scalar (text : String) (style : Style)
deriving DecidableEq, Repr

structure Token where
  kind : Token.Kind
  start : Mark
deriving DecidableEq, Repr

def Token.behind (token : Token) : Mark :=
  { token.start with index := token.start.index + 1, column := token.start.column + 1 }

end ProviderForge.Yaml

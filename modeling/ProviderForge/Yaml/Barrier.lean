import ProviderForge.Yaml.Cursor

/-!
Control characters. A text is taken in parts, and a part that contains a control character
cannot be read; what stands before that part can.
-/

namespace ProviderForge.Yaml

def partSize : Nat := 16384

/-- Where the part starts that cannot be read, and why. -/
structure Barrier where
  index : Nat
  fault : SyntaxFault
deriving Repr

namespace Barrier

/-- The part with the first control character. `start` is where the part begins that the
character at `offset` belongs to, if it fits into it. -/
def find? (start offset : Nat) : List Char → Option Barrier
  | [] => none
  | character :: rest =>
      let behind := offset + character.utf8Size
      let start := if behind ≤ start + partSize then start else offset
      if isAllowed character then find? start behind rest
      else some ⟨start, ⟨.controlCharacter offset, {}, none⟩⟩

def ofText? (text : List Char) : Option Barrier :=
  find? 0 0 text

end Barrier

end ProviderForge.Yaml

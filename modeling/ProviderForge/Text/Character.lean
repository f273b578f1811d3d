/-!
Classes of characters. A class beyond ASCII is given by the sorted list of code points at which
membership changes: a code point is a member when an odd number of changes lie at or below it.
-/

namespace ProviderForge.Text

def hexValue? (character : Char) : Option Nat :=
  if '0' ≤ character ∧ character ≤ '9' then some (character.toNat - 48)
  else if 'a' ≤ character ∧ character ≤ 'f' then some (character.toNat - 87)
  else if 'A' ≤ character ∧ character ≤ 'F' then some (character.toNat - 55)
  else none

/-- The property White_Space. -/
def isWhiteSpace (character : Char) : Bool :=
  let point := character.toNat
  (9 ≤ point && point ≤ 13) || point == 32 || point == 0x85 || point == 0xa0 ||
    point == 0x1680 || (0x2000 ≤ point && point ≤ 0x200a) || point == 0x2028 ||
    point == 0x2029 || point == 0x202f || point == 0x205f || point == 0x3000

/-- Code also skips the two direction marks. -/
def isCodeBlank (character : Char) : Bool :=
  isWhiteSpace character || character.toNat == 0x200e || character.toNat == 0x200f

def changesUpTo (changes : List Nat) (point : Nat) : Nat :=
  (changes.takeWhile (· ≤ point)).length

def isMember (changes : List Nat) (character : Char) : Bool :=
  changesUpTo changes character.toNat % 2 == 1

end ProviderForge.Text

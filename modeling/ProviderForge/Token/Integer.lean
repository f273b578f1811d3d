import ProviderForge.Text.Character
import ProviderForge.Text.IdentifierClass

/-!
Integer literals: digits of some base, underscores among them or not, and perhaps a suffix. A
literal with a point or an exponent is none.
-/

namespace ProviderForge

structure IntegerLiteral where
  value : Nat
  suffix : String
deriving DecidableEq, Repr, Inhabited

namespace IntegerLiteral

open Text

def base : List Char → Nat × List Char
  | '0' :: 'x' :: rest => (16, rest)
  | '0' :: 'o' :: rest => (8, rest)
  | '0' :: 'b' :: rest => (2, rest)
  | text => (10, text)

def isSuffix : List Char → Bool
  | [] => true
  | first :: rest => isIdentifierStart first && rest.all isIdentifierContinue

def isExponent (hasDigit : Bool) : List Char → Bool
  | [] => hasDigit
  | character :: rest =>
      if character == '_' then isExponent hasDigit rest
      else if character == '+' || character == '-' then true
      else if isAsciiDigit character then isExponent true rest
      else hasDigit && isSuffix (character :: rest)

def isExponentMark (character : Char) : Bool :=
  character == 'e' || character == 'E'

/-- Continues `value`, of which there is none before the first digit, to the end of the
digits. -/
def readDigits (base : Nat) (value : Option Nat) : List Char → Option IntegerLiteral
  | [] => value.map fun value => ⟨value, ""⟩
  | character :: rest =>
      let stopped := do
        let value ← value
        if isSuffix (character :: rest) then
          some ⟨value, String.ofList (character :: rest)⟩
        else none
      if character == '_' then readDigits base value rest
      else if base == 10 && character == '.' then none
      else if base == 10 && isExponentMark character then
        if isExponent false rest then none else stopped
      else if base ≤ 10 && !isAsciiDigit character then stopped
      else match hexValue? character with
        | some digit =>
            if digit < base then readDigits base (some (value.getD 0 * base + digit)) rest
            else none
        | none => stopped

def ofText? (text : String) : Option IntegerLiteral :=
  match text.toList with
  | [] => none
  | first :: rest =>
      if isAsciiDigit first then
        let (base, digits) := base (first :: rest)
        readDigits base none digits
      else none

end IntegerLiteral

end ProviderForge

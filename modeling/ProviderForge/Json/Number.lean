import ProviderForge.Number.Notation

/-!
Numbers of JSON texts. An integer that fits 64 bits is exact. Any other number is computed
from its leading digits, as many as fit 64 bits, scaled by a power of ten; both steps round.
-/

namespace ProviderForge.Json.Number

def word64Limit : Nat := UInt64.size

def digitValue (digit : Char) : Nat :=
  digit.toNat - 48

def naturalOf (digits : List Char) : Nat :=
  digits.foldl (fun value digit => value * 10 + digitValue digit) 0

/-- The value of the leading digits that keep it below the limit, and the digits after
them. -/
def leading (value : Nat) : List Char → Nat × List Char
  | [] => (value, [])
  | digit :: rest =>
      let next := value * 10 + digitValue digit
      if next < word64Limit then leading next rest else (value, digit :: rest)

/-- The leading digits as a natural number and the power of ten that scales it. Once an
integer digit is left out, the fraction still continues the leading digits. -/
def significand (whole fraction : List Char) : Nat × Int :=
  let (value, left) := leading 0 whole
  let (value, unused) := leading value fraction
  (value, (left.length : Int) - (fraction.length - unused.length : Nat))

/-- Scales a magnitude by a power of ten, in steps of the greatest power there is. -/
def scale? (fuel : Nat) (magnitude : Double) (exponent : Int) : Option Double :=
  match fuel with
  | 0 => some magnitude
  | fuel + 1 =>
      if exponent.natAbs ≤ 308 then do
        let power ← Double.ofDecimal? 1 exponent.natAbs
        if 0 ≤ exponent then magnitude.multiply? power else magnitude.divide? power
      else if magnitude.mantissa = 0 then some magnitude
      else if 0 ≤ exponent then none
      else do
        let power ← Double.ofDecimal? 1 308
        let magnitude ← magnitude.divide? power
        scale? fuel magnitude (exponent + 308)

def magnitude? (whole fraction : List Char) (exponent : Int) : Option Double := do
  let (value, scaling) := significand whole fraction
  let start ← Double.ofDecimal? value 0
  scale? 8 start (scaling + exponent)

end ProviderForge.Json.Number

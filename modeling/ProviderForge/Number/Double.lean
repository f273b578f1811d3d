namespace ProviderForge

/-- The magnitude `mantissa * 2 ^ exponent`. The exponent is the least that the precision
admits, so two magnitudes are equal only if their parts are. -/
structure Double where
  mantissa : Nat
  exponent : Int
deriving DecidableEq, Repr

namespace Double

def twos (count : Nat) : Nat := Nat.pow 2 count

def tens (count : Nat) : Nat := Nat.pow 10 count

def leastExponent : Int := -1074

def greatestExponent : Int := 971

def zero : Double := ⟨0, leastExponent⟩

def precision : Nat := twos 53

def binaryOrder (numerator denominator : Nat) : Int :=
  let order : Int := numerator.log2 - denominator.log2
  let isBelow :=
    if 0 ≤ order then decide (numerator < denominator * twos order.toNat)
    else decide (numerator * twos (-order).toNat < denominator)
  if isBelow then order - 1 else order

/-- The nearest integer to a quotient; a tie goes to the even one. -/
def roundedQuotient (numerator denominator : Nat) : Nat :=
  let quotient := numerator / denominator
  let doubled := 2 * (numerator % denominator)
  if denominator < doubled ∨ (doubled = denominator ∧ quotient % 2 = 1) then quotient + 1
  else quotient

/-- The magnitude nearest to a quotient; `none` when it exceeds all of them. -/
def ofQuotient? (numerator denominator : Nat) : Option Double :=
  if numerator = 0 then some zero
  else
    let exponent := max (binaryOrder numerator denominator - 52) leastExponent
    let mantissa :=
      roundedQuotient (numerator * twos (-exponent).toNat) (denominator * twos exponent.toNat)
    let rounded : Double :=
      if mantissa = precision then ⟨precision / 2, exponent + 1⟩ else ⟨mantissa, exponent⟩
    if greatestExponent < rounded.exponent then none else some rounded

def numerator (magnitude : Double) : Nat :=
  magnitude.mantissa * twos magnitude.exponent.toNat

def denominator (magnitude : Double) : Nat :=
  twos (-magnitude.exponent).toNat

def multiply? (left right : Double) : Option Double :=
  ofQuotient? (left.numerator * right.numerator) (left.denominator * right.denominator)

def divide? (left right : Double) : Option Double :=
  ofQuotient? (left.numerator * right.denominator) (left.denominator * right.numerator)

/-- The magnitude nearest to `digits * 10 ^ exponent`. Exponents beyond all magnitudes are
not computed with. -/
def ofDecimal? (digits : Nat) (exponent : Int) : Option Double :=
  let order : Int := (Nat.toDigits 10 digits).length + exponent
  if digits = 0 ∨ order < -400 then some zero
  else if 400 < order then none
  else ofQuotient? (digits * tens exponent.toNat) (tens (-exponent).toNat)

/-- A decimal `digits * 10 ^ exponent` whose last digit is not zero. -/
structure Decimal where
  digits : Nat
  exponent : Int
deriving DecidableEq, Repr

namespace Decimal

def stripZeros (fuel : Nat) (decimal : Decimal) : Decimal :=
  match fuel with
  | 0 => decimal
  | fuel + 1 =>
      if decimal.digits ≠ 0 ∧ decimal.digits % 10 = 0 then
        stripZeros fuel ⟨decimal.digits / 10, decimal.exponent + 1⟩
      else decimal

end Decimal

/-- Whether `digits * 10 ^ exponent` reads back as the magnitude. Half the gap to either
neighbour still belongs to it, the ends only when the mantissa is even. The gap below a
power of two is half as wide. -/
def readsBack (magnitude : Double) (decimal : Decimal) : Bool :=
  let mantissa := magnitude.mantissa
  let isPower := mantissa = precision / 2 ∧ leastExponent < magnitude.exponent
  let scale := tens (-decimal.exponent).toNat
  let candidate := decimal.digits * tens decimal.exponent.toNat * magnitude.denominator * 4
  let unit := twos magnitude.exponent.toNat * scale
  let value := 4 * mantissa * unit
  let lower := value - (if isPower then unit else 2 * unit)
  let upper := value + 2 * unit
  if mantissa % 2 = 0 then decide (lower ≤ candidate ∧ candidate ≤ upper)
  else decide (lower < candidate ∧ candidate < upper)

def decimalOrder (numerator denominator : Nat) : Int :=
  let order : Int :=
    (Nat.toDigits 10 numerator).length - (Nat.toDigits 10 denominator).length
  let isBelow :=
    if 0 ≤ order then decide (numerator < denominator * tens order.toNat)
    else decide (numerator * tens (-order).toNat < denominator)
  if isBelow then order - 1 else order

/-- The nearer of the two decimals with `count` digits around a magnitude, if it or the other
reads back. -/
def withDigits? (magnitude : Double) (count : Nat) : Option Decimal :=
  let numerator := magnitude.numerator
  let denominator := magnitude.denominator
  let exponent := decimalOrder numerator denominator + 1 - count
  let scaled := numerator * tens (-exponent).toNat
  let divisor := denominator * tens exponent.toNat
  let floor := scaled / divisor
  let lower : Decimal := ⟨floor, exponent⟩
  let upper : Decimal := ⟨floor + 1, exponent⟩
  let doubled := 2 * (scaled % divisor)
  let prefersLower := doubled < divisor ∨ (doubled = divisor ∧ floor % 2 = 0)
  match magnitude.readsBack lower, magnitude.readsBack upper with
  | true, true => some (if prefersLower then lower else upper)
  | true, false => some lower
  | false, true => some upper
  | false, false => none

def shortest (magnitude : Double) : Decimal :=
  if magnitude.mantissa = 0 then ⟨0, 0⟩
  else
    let found := (List.range 17).findSome? fun index => magnitude.withDigits? (index + 1)
    (found.getD ⟨0, 0⟩).stripZeros 400

end Double

/-- A number read from a text that is not an integer in range. -/
inductive Floating
  | finite (isNegative : Bool) (magnitude : Double)
  | infinite (isNegative : Bool)
  | notANumber
deriving DecidableEq, Repr

end ProviderForge

import ProviderForge.Number.Double

namespace ProviderForge.Floating

open Double

def zeros (count : Nat) : List Char :=
  List.replicate count '0'

/-- Without an exponent; a whole number ends in `.0`. -/
def positional (decimal : Decimal) : List Char :=
  let digits := Nat.toDigits 10 decimal.digits
  if 0 ≤ decimal.exponent then digits ++ zeros decimal.exponent.toNat ++ ['.', '0']
  else
    let places := (-decimal.exponent).toNat
    if places < digits.length then
      digits.take (digits.length - places) ++ '.' :: digits.drop (digits.length - places)
    else '0' :: '.' :: zeros (places - digits.length) ++ digits

def exponentText (exponent : Int) : List Char :=
  (if exponent < 0 then '-' else '+') :: Nat.toDigits 10 exponent.natAbs

def scientific (decimal : Decimal) : List Char :=
  let digits := Nat.toDigits 10 decimal.digits
  let order := decimal.exponent + digits.length - 1
  digits.take 1 ++ (if digits.length = 1 then [] else '.' :: digits.drop 1) ++
    'e' :: exponentText order

/-- Positional from `0.00001` up to sixteen digits before the point, else with an
exponent. -/
def compact (decimal : Decimal) : List Char :=
  let order := decimal.exponent + (Nat.toDigits 10 decimal.digits).length - 1
  if decimal.digits = 0 ∨ (-5 ≤ order ∧ order ≤ 15) then positional decimal
  else scientific decimal

def textWith (write : Decimal → List Char) : Floating → String
  | .finite isNegative magnitude =>
      String.ofList ((if isNegative then ['-'] else []) ++ write magnitude.shortest)
  | .infinite isNegative => if isNegative then "-inf" else "inf"
  | .notANumber => "NaN"

def positionalText : Floating → String :=
  textWith positional

def compactText : Floating → String :=
  textWith compact

end ProviderForge.Floating

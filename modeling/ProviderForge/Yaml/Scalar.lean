import ProviderForge.Document.Basic
import ProviderForge.Number.Notation
import ProviderForge.Text.Character
import ProviderForge.Yaml.Token

namespace ProviderForge.Yaml

namespace Plain

def isAbsent (text : String) : Bool :=
  ["null", "Null", "NULL", "~"].contains text

def flag? (text : String) : Option Bool :=
  if ["true", "True", "TRUE"].contains text then some true
  else if ["false", "False", "FALSE"].contains text then some false
  else none

def isSign (character : Char) : Bool :=
  character == '+' || character == '-'

def dropSign (text : List Char) : List Char :=
  match text with
  | character :: rest => if isSign character then rest else text
  | [] => []

def dropPlus : List Char → List Char
  | '+' :: rest => rest
  | text => text

/-- Digits that start with a needless zero are no number. -/
def isPadded (text : List Char) : Bool :=
  let digits := dropSign text
  1 < digits.length && digits.head? == some '0' && digits.all Char.isDigit

def natural? (radix : Nat) (digits : List Char) : Option Nat :=
  if digits.isEmpty then none
  else digits.foldlM (fun value character => do
    let digit ← Text.hexValue? character
    if digit < radix then some (value * radix + digit) else none) 0

def radixOf? : List Char → Option (Nat × List Char)
  | '0' :: 'x' :: digits => some (16, digits)
  | '0' :: 'o' :: digits => some (8, digits)
  | '0' :: 'b' :: digits => some (2, digits)
  | _ => none

def magnitude? (text : List Char) : Option Nat :=
  match radixOf? text with
  | some (radix, digits) => natural? radix digits
  | none => natural? 10 text

def unsigned? (bound : Nat) (text : List Char) : Option Nat := do
  if isPadded text then none
  else
    let value ← magnitude? (dropPlus text)
    if value < bound then some value else none

/-- A number with a minus sign, whose magnitude is at most `bound`. -/
def negative? (bound : Nat) (text : List Char) : Option Int :=
  match text with
  | '-' :: magnitude => do
      if isPadded text then none
      else
        let value ← magnitude? magnitude
        if value ≤ bound then some (-value) else none
  | _ => none

def wordLimit : Nat := UInt64.size

def doubleWordLimit : Nat := wordLimit * wordLimit

def integer? (text : List Char) : Option Found :=
  let atom (value : Int) : Found := .atom (.integer value)
  let wide (typeName : String) (value : Int) : Found := .wide value typeName
  (((unsigned? wordLimit text).map fun value => atom value).or
    ((negative? (wordLimit / 2) text).map atom)).or
    (((unsigned? doubleWordLimit text).map fun value => wide "u128" value).or
      ((negative? (doubleWordLimit / 2) text).map (wide "i128")))

def exponent? (text : List Char) : Option Int :=
  match text with
  | [] => some 0
  | letter :: rest =>
      if letter != 'e' && letter != 'E' then none
      else (natural? 10 (dropSign rest)).map fun value =>
        if rest.head? == some '-' then -(value : Int) else value

/-- A decimal with a digit before or behind its point. -/
def decimal? (text : List Char) : Option Double := do
  let whole := text.takeWhile Char.isDigit
  let behind := text.drop whole.length
  let (fraction, exponentPart) := match behind with
    | '.' :: rest =>
        let fraction := rest.takeWhile Char.isDigit
        (fraction, rest.drop fraction.length)
    | _ => ([], behind)
  let digits ← natural? 10 (whole ++ fraction)
  let exponent ← exponent? exponentPart
  Double.ofDecimal? digits (exponent - fraction.length)

def floating? (text : List Char) : Option Floating :=
  let unsigned := dropPlus text
  let isFirst (names : List String) (text : List Char) := names.contains (String.ofList text)
  if isFirst [".inf", ".Inf", ".INF"] unsigned then some (.infinite false)
  else if isFirst ["-.inf", "-.Inf", "-.INF"] text then some (.infinite true)
  else if isFirst [".nan", ".NaN", ".NAN"] text then some .notANumber
  else match text with
    | '-' :: rest => (decimal? rest).map (.finite true)
    | _ => (decimal? unsigned).map (.finite false)

def floatingAtom (value : Floating) : Atom :=
  .floating value.positionalText

def found (text : String) : Found :=
  let characters := text.toList
  if text.isEmpty || isAbsent text then .atom (.absent "unit value")
  else match flag? text with
    | some value => .atom (.flag value)
    | none =>
        ((integer? characters).or
          ((if isPadded characters then none else floating? characters).map
            fun value => .atom (floatingAtom value))).getD (.atom (.string text))

end Plain

namespace Tag

def absent : Octets := .ofString "tag:yaml.org,2002:null"

def flag : Octets := .ofString "tag:yaml.org,2002:bool"

def integer : Octets := .ofString "tag:yaml.org,2002:int"

def floating : Octets := .ofString "tag:yaml.org,2002:float"

def mark : UInt8 := 0x21

def isLocal (tag : Octets) : Bool :=
  tag.head? == some mark

/-- The choice that a tag names. Octets that make up no characters name none. -/
def choice? (tag : Octets) : Option String :=
  if isLocal tag then
    let name := if tag.tail.isEmpty then tag else tag.tail
    String.fromUTF8? (ByteArray.mk name.toArray)
  else none

end Tag

/-- What a scalar is. A text that does not suit its tag is at fault. -/
def foundOf (text : String) (style : Style) (tag : Option Octets) : Except Cause Found :=
  let demand (found : Option Found) (expected : String) : Except Cause Found :=
    match found with
    | some found => .ok found
    | none => .error (.invalidValue (.atom (.string text)) expected)
  let untagged : Except Cause Found :=
    .ok (if style = .plain then Plain.found text else .atom (.string text))
  match tag with
  | none => untagged
  | some tag =>
      if tag = Tag.flag then
        demand ((Plain.flag? text).map fun value => .atom (.flag value)) "a boolean"
      else if tag = Tag.integer then demand (Plain.integer? text.toList) "an integer"
      else if tag = Tag.floating then
        demand ((Plain.floating? text.toList).map fun value => .atom (Plain.floatingAtom value))
          "a float"
      else if tag = Tag.absent then
        demand (if Plain.isAbsent text then some (.atom (.absent "unit value")) else none) "null"
      else if Tag.isLocal tag then untagged
      else .ok (.atom (.string text))

/-- The answers of a scalar. `around` is where a fault of the value around it is put. -/
def scalarOf (text : String) (style : Style) (tag : Option Octets)
    (around : Option Location) : Scalar :=
  let found := foundOf text style tag
  let choice := tag.bind Tag.choice?
  let noText : Cause := .invalidValue (.atom (.string text)) "null"
  let isUnit := style = .plain ∧ (text.isEmpty ∨ Plain.isAbsent text)
  /- Whether the text is what the tag says, or may be it without one. -/
  let suits (expected : Octets) : Bool :=
    style == .plain || (style == .literal && tag == some expected)
  { found
    copied :=
      match choice, found with
      | some _, _ => .error .taggedValue
      | none, .error cause => .error cause
      | none, .ok (.atom atom) => .ok atom
      | none, .ok wide => .error (.invalidType wide "any value")
    string? := some text
    flag? := if suits Tag.flag then Plain.flag? text else none
    integer? :=
      if suits Tag.integer then (Plain.unsigned? Plain.wordLimit text.toList).map Int.ofNat
      else none
    absence :=
      if style ≠ .plain then .ok false
      else match tag with
        | none => .ok (decide isUnit)
        | some tag =>
            if tag ≠ Tag.absent then .ok false
            else if Plain.isAbsent text then .ok true
            else .error ⟨noText, around⟩
    unitFault? := if isUnit then none else some noText
    isBlank := style == .plain && text.isEmpty
    tag? := choice }

end ProviderForge.Yaml

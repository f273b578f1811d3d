import ProviderForge.Json.Reader

/-!
The grammar of JSON texts. A text is related to the tree that it spells: blanks, the spelling of
numbers and the escapes of strings are left behind, the order of members is kept.
-/

namespace ProviderForge.Json

open Reader

structure Numeral where
  isNegative : Bool
  whole : List Char
  /-- The digits behind the point, none without a point. -/
  fraction : List Char
  exponent : Option (Bool × List Char)

def Numeral.atom? (numeral : Numeral) : Option Atom :=
  let nowhere : Cursor := { rest := [] }
  match numeral.fraction, numeral.exponent with
  | [], none => (integerValue numeral.isNegative numeral.whole nowhere).toOption
  | fraction, exponent =>
      (floatingValue numeral.isNegative numeral.whole fraction
        (exponent.map fun part => (part.1, part.2, nowhere)) nowhere).toOption

structure AreDigits (text : List Char) : Prop where
  nonempty : text ≠ []
  all : ∀ character ∈ text, character.isDigit = true

theorem AreDigits.exists_cons {text : List Char} (htext : AreDigits text) :
    ∃ first others, text = first :: others ∧ first.isDigit = true := by
  obtain ⟨first, others, rfl⟩ := List.exists_cons_of_ne_nil htext.nonempty
  exact ⟨first, others, rfl, htext.all first List.mem_cons_self⟩

inductive SpellsFraction : List Char → List Char → Prop
  | absent : SpellsFraction [] []
  | present {digits : List Char} (hdigits : AreDigits digits) :
      SpellsFraction ('.' :: digits) digits

inductive SpellsExponent : List Char → Option (Bool × List Char) → Prop
  | absent : SpellsExponent [] none
  | unsigned {mark : Char} {digits : List Char} (hmark : mark = 'e' ∨ mark = 'E')
      (hdigits : AreDigits digits) : SpellsExponent (mark :: digits) (some (false, digits))
  | raised {mark : Char} {digits : List Char} (hmark : mark = 'e' ∨ mark = 'E')
      (hdigits : AreDigits digits) : SpellsExponent (mark :: '+' :: digits) (some (false, digits))
  | reduced {mark : Char} {digits : List Char} (hmark : mark = 'e' ∨ mark = 'E')
      (hdigits : AreDigits digits) : SpellsExponent (mark :: '-' :: digits) (some (true, digits))

theorem SpellsExponent.cases_mark {text : List Char} {exponent : Option (Bool × List Char)}
    (htext : SpellsExponent text exponent) :
    (text = [] ∧ exponent = none) ∨
      ∃ mark others part, text = mark :: others ∧ (mark = 'e' ∨ mark = 'E') ∧
        exponent = some part := by
  cases htext with
  | absent => exact .inl ⟨rfl, rfl⟩
  | unsigned hmark => exact .inr ⟨_, _, _, rfl, hmark, rfl⟩
  | raised hmark => exact .inr ⟨_, _, _, rfl, hmark, rfl⟩
  | reduced hmark => exact .inr ⟨_, _, _, rfl, hmark, rfl⟩

/-- A number behind its sign. Only zero itself has a leading zero. -/
inductive SpellsMagnitude (isNegative : Bool) : List Char → Numeral → Prop
  | intro {whole point fraction tail : List Char} {exponent : Option (Bool × List Char)}
      (hwhole : AreDigits whole) (hzero : whole.head? = some '0' → whole = ['0'])
      (hfraction : SpellsFraction point fraction) (hexponent : SpellsExponent tail exponent) :
      SpellsMagnitude isNegative (whole ++ (point ++ tail))
        ⟨isNegative, whole, fraction, exponent⟩

/-- A part of a string: a character, or a unit of sixteen bits that an escape names. -/
inductive StringPart
  | character (value : Char)
  | unit (value : Nat)

inductive SpellsPart : List Char → StringPart → Prop
  | plain {character : Char} (hquote : character ≠ '"') (hbackslash : character ≠ '\\')
      (hcontrol : 32 ≤ character.toNat) : SpellsPart [character] (.character character)
  | letter {letter character : Char} (hmeaning : simpleEscape? letter = some character) :
      SpellsPart ['\\', letter] (.character character)
  | unit {unit : List Char} {digits : List Nat} (hlength : unit.length = 4)
      (hdigits : unit.mapM Text.hexValue? = some digits) :
      SpellsPart ('\\' :: 'u' :: unit)
        (.unit (digits.foldl (fun value digit => value * 16 + digit) 0))

inductive SpellsParts : List Char → List StringPart → Prop
  | nil : SpellsParts [] []
  | cons {text rest : List Char} {part : StringPart} {parts : List StringPart}
      (hpart : SpellsPart text part) (hparts : SpellsParts rest parts) :
      SpellsParts (text ++ rest) (part :: parts)

theorem SpellsPart.length_pos {text : List Char} {part : StringPart}
    (hpart : SpellsPart text part) : 0 < text.length := by
  cases hpart <;> simp

theorem SpellsParts.length_le {body : List Char} {parts : List StringPart}
    (hparts : SpellsParts body parts) : parts.length ≤ body.length := by
  induction hparts with
  | nil => exact Nat.le_refl _
  | cons hpart _ ih =>
      have hpositive := hpart.length_pos
      rw [List.length_append, List.length_cons]
      omega

def pairedCharacter (leading trailing : Nat) : Char :=
  Char.ofNat (0x10000 + (leading - 0xd800) * 1024 + (trailing - 0xdc00))

/-- The characters of a string, unless a surrogate unit is without its other half. -/
def characters? : List StringPart → Option (List Char)
  | [] => some []
  | .character value :: rest => (value :: ·) <$> characters? rest
  | .unit value :: rest =>
      if isTrailing value then none
      else if isLeading value then
        match rest with
        | .unit next :: rest =>
            if isTrailing next then (pairedCharacter value next :: ·) <$> characters? rest
            else none
        | _ => none
      else (Char.ofNat value :: ·) <$> characters? rest

section

variable {value : Nat} {parts : List StringPart}

theorem characters?_trailing (htrailing : isTrailing value = true) :
    characters? (.unit value :: parts) = none := by
  unfold characters?
  rw [if_pos htrailing]

theorem characters?_plain (htrailing : isTrailing value ≠ true)
    (hleading : isLeading value ≠ true) :
    characters? (.unit value :: parts) = (Char.ofNat value :: ·) <$> characters? parts := by
  conv => lhs; unfold characters?
  rw [if_neg htrailing, if_neg hleading]

theorem characters?_paired {next : Nat} (htrailing : isTrailing value ≠ true)
    (hleading : isLeading value = true) (hnext : isTrailing next = true) :
    characters? (.unit value :: .unit next :: parts) =
      (pairedCharacter value next :: ·) <$> characters? parts := by
  rw [characters?, if_neg htrailing, if_pos hleading, if_pos hnext]

theorem characters?_alone (htrailing : isTrailing value ≠ true) (hleading : isLeading value = true)
    (hnext : ∀ next others, parts = .unit next :: others → isTrailing next = false) :
    characters? (.unit value :: parts) = none := by
  unfold characters?
  rw [if_neg htrailing, if_pos hleading]
  split
  next => rw [if_neg (by simp [hnext _ _ rfl])]
  next => rfl

end

inductive SpellsString : List Char → Option String → Prop
  | intro {body : List Char} {parts : List StringPart} (hparts : SpellsParts body parts) :
      SpellsString ('"' :: body ++ ['"']) ((characters? parts).map String.ofList)

/-- What a JSON text spells. A number out of range and a string with half of a surrogate pair have
no value, and a member whose key is such a string has no name. -/
inductive Source
  | scalar (value : Option Atom)
  | array (items : List Source)
  | object (members : List (Option String × Source))

def AreBlank (text : List Char) : Prop :=
  ∀ character ∈ text, Cursor.isBlank character = true

theorem areBlank_nil : AreBlank [] := nofun

inductive SpellsKey : List Char → Option String → Prop
  | intro {before text after : List Char} {name : Option String} (hbefore : AreBlank before)
      (htext : SpellsString text name) (hafter : AreBlank after) :
      SpellsKey (before ++ (text ++ after)) name

mutual
inductive Spells : List Char → Source → Prop
  | null : Spells ['n', 'u', 'l', 'l'] (.scalar (some (.absent "null")))
  | yes : Spells ['t', 'r', 'u', 'e'] (.scalar (some (.flag true)))
  | no : Spells ['f', 'a', 'l', 's', 'e'] (.scalar (some (.flag false)))
  | positive {text : List Char} {numeral : Numeral} (htext : SpellsMagnitude false text numeral) :
      Spells text (.scalar numeral.atom?)
  | negative {text : List Char} {numeral : Numeral} (htext : SpellsMagnitude true text numeral) :
      Spells ('-' :: text) (.scalar numeral.atom?)
  | string {text : List Char} {value : Option String} (htext : SpellsString text value) :
      Spells text (.scalar (value.map .string))
  | array {text : List Char} {items : List Source} (hitems : SpellsItems text items) :
      Spells ('[' :: text ++ [']']) (.array items)
  | object {text : List Char} {members : List (Option String × Source)}
      (hmembers : SpellsMembers text members) :
      Spells ('\x7b' :: text ++ ['\x7d']) (.object members)

inductive SpellsPadded : List Char → Source → Prop
  | intro {before text after : List Char} {source : Source} (hbefore : AreBlank before)
      (htext : Spells text source) (hafter : AreBlank after) :
      SpellsPadded (before ++ (text ++ after)) source

inductive SpellsItems : List Char → List Source → Prop
  | nil {text : List Char} (htext : AreBlank text) : SpellsItems text []
  | last {text : List Char} {item : Source} (hitem : SpellsPadded text item) :
      SpellsItems text [item]
  | more {text rest : List Char} {item next : Source} {items : List Source}
      (hitem : SpellsPadded text item) (hitems : SpellsItems rest (next :: items)) :
      SpellsItems (text ++ ',' :: rest) (item :: next :: items)

inductive SpellsMembers : List Char → List (Option String × Source) → Prop
  | nil {text : List Char} (htext : AreBlank text) : SpellsMembers text []
  | last {key text : List Char} {name : Option String} {value : Source} (hkey : SpellsKey key name)
      (hvalue : SpellsPadded text value) : SpellsMembers (key ++ ':' :: text) [(name, value)]
  | more {key text rest : List Char} {name : Option String} {value : Source}
      {next : Option String × Source} {members : List (Option String × Source)}
      (hkey : SpellsKey key name) (hvalue : SpellsPadded text value)
      (hmembers : SpellsMembers rest (next :: members)) :
      SpellsMembers (key ++ ':' :: (text ++ ',' :: rest)) ((name, value) :: next :: members)
end

def IsTextOf (text : String) (source : Source) : Prop :=
  SpellsPadded text.toList source

end ProviderForge.Json

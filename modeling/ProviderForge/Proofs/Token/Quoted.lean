import ProviderForge.Proofs.Name.Identifier
import ProviderForge.Token.Quoted

namespace ProviderForge.Quoted

open Text

/-- A character that a quoted text shows as it is, and that is read as it is. -/
structure IsPlain (character : Char) : Prop where
  escape : ∀ following, escapeCharacter character following = [character]
  not_escaping : character ∉ ['"', '\\', '\r']

theorem toNat_lt_of_canContinue {character : Char} (hname : Name.canContinue character = true) :
    character.toNat < 128 := by
  simp only [Name.canContinue, isAsciiLetter, isAsciiDigit, Bool.or_eq_true, Bool.and_eq_true,
    decide_eq_true_eq, beq_iff_eq, Char.le_def, UInt32.le_iff_toNat_le] at hname
  rcases hname with (hletter | hdigit) | rfl
  · rcases hletter with ⟨-, hupper⟩ | ⟨-, hupper⟩
    · exact Nat.lt_of_le_of_lt hupper (by decide)
    · exact Nat.lt_of_le_of_lt hupper (by decide)
  · exact Nat.lt_of_le_of_lt hdigit.2 (by decide)
  · decide

theorem isPlain_of_canContinue {character : Char} (hname : Name.canContinue character = true) :
    IsPlain character := by
  have hall : ∀ point < 128, Name.canContinue (Char.ofNat point) = true →
      (Char.ofNat point).toNat ≠ 0 ∧
        Char.ofNat point ∉ ['\t', '\r', '\n', '"', '\\'] ∧
        extendsGrapheme (Char.ofNat point) = false ∧ isVisible (Char.ofNat point) = true := by
    decide +kernel
  have hpoint := hall character.toNat (toNat_lt_of_canContinue hname)
  rw [Char.ofNat_toNat] at hpoint
  obtain ⟨hzero, hspecial, hgrapheme, hvisible⟩ := hpoint hname
  simp only [List.mem_cons, List.not_mem_nil, or_false, not_or] at hspecial
  obtain ⟨htab, hreturn, hbreak, hquote, hbackslash⟩ := hspecial
  refine ⟨?_, by simp [hreturn, hquote, hbackslash]⟩
  intro following
  simp [escapeCharacter, hzero, htab, hreturn, hbreak, hquote, hbackslash, hgrapheme, hvisible]

theorem escape_of_plain {letters : List Char} (hplain : ∀ character ∈ letters, IsPlain character) :
    escape letters = letters := by
  induction letters with
  | nil => rfl
  | cons first rest ih =>
      obtain ⟨hfirst, hrest⟩ := List.forall_mem_cons.mp hplain
      rw [escape, hfirst.escape, ih hrest]
      rfl

theorem unescape_of_plain {letters : List Char}
    (hplain : ∀ character ∈ letters, IsPlain character) (fuel : Nat) :
    unescape (letters.length + fuel) (letters ++ ['"']) = letters := by
  induction letters with
  | nil => cases fuel <;> rfl
  | cons first rest ih =>
      obtain ⟨hfirst, hrest⟩ := List.forall_mem_cons.mp hplain
      have hescaping := hfirst.not_escaping
      simp only [List.mem_cons, List.not_mem_nil, or_false, not_or] at hescaping
      rw [List.length_cons, Nat.add_right_comm, List.cons_append, unescape, ih hrest]
      all_goals simp_all

theorem value?_quote {name : String} (hname : Name.IsWord name) :
    value? (quote name) = some name := by
  have hplain : ∀ character ∈ name.toList, IsPlain character :=
    fun character hmem => isPlain_of_canContinue (hname.canContinue character hmem)
  have hread := unescape_of_plain hplain 1
  simp only [value?, quote, String.toList_ofList, escape_of_plain hplain, List.cons_append,
    List.length_append, List.length_singleton, hread, String.ofList_toList]

theorem hexValue?_digitChar {digit : Nat} (hdigit : digit < 16) :
    Nat.digitChar digit ≠ '\x7d' ∧ hexValue? (Nat.digitChar digit) = some digit := by
  have hall : ∀ digit < 16,
      Nat.digitChar digit ≠ '\x7d' ∧ hexValue? (Nat.digitChar digit) = some digit := by decide
  exact hall digit hdigit

theorem unicodeValue_toDigits (sofar value : Nat) (rest : List Char) :
    ∃ scale, unicodeValue sofar (Nat.toDigits 16 value ++ rest) =
      unicodeValue (sofar * scale + value) rest := by
  induction value using Nat.strongRecOn generalizing rest with
  | ind value ih =>
      by_cases hsmall : value < 16
      · obtain ⟨hopen, hvalue⟩ := hexValue?_digitChar hsmall
        refine ⟨16, ?_⟩
        rw [Nat.toDigits_of_lt_base hsmall, List.singleton_append, unicodeValue, if_neg hopen,
          hvalue]
      · obtain ⟨scale, hdigits⟩ :=
          ih (value / 16) (by omega) (Nat.digitChar (value % 16) :: rest)
        obtain ⟨hopen, hvalue⟩ := hexValue?_digitChar (Nat.mod_lt value (by decide : 0 < 16))
        refine ⟨scale * 16, ?_⟩
        rw [Nat.toDigits_of_base_le (by decide) (by omega), List.append_assoc,
          List.singleton_append, hdigits, unicodeValue, if_neg hopen, hvalue]
        have hsum : (sofar * scale + value / 16) * 16 + value % 16 =
            sofar * (scale * 16) + value := by
          rw [← Nat.mul_assoc, Nat.add_mul, Nat.add_assoc, Nat.div_add_mod']
        simp only [hsum]

theorem unescape_unicodeEscape (character : Char) (rest : List Char) (fuel : Nat) :
    unescape (fuel + 1) (unicodeEscape character ++ rest) = character :: unescape fuel rest := by
  obtain ⟨_, hdigits⟩ := unicodeValue_toDigits 0 character.toNat ('\x7d' :: rest)
  have hvalue : unicodeValue 0 (Nat.toDigits 16 character.toNat ++ '\x7d' :: rest) =
      (character.toNat, rest) := by
    rw [hdigits]
    simp [unicodeValue]
  simp [unicodeEscape, unescape, hvalue]

theorem unescape_escapeCharacter (character : Char) (text : List Char) (fuel : Nat) :
    unescape (fuel + 1) (escapeCharacter character text ++ (escape text ++ ['"'])) =
      character :: unescape fuel (escape text ++ ['"']) := by
  by_cases hzero : character.toNat = 0
  · obtain rfl : character = Char.ofNat 0 := by rw [← hzero, Char.ofNat_toNat]
    rw [escapeCharacter, if_pos hzero]
    cases text with
    | nil => simp [escapeZero, unescape]
    | cons next text =>
        by_cases hoctal : isOctalDigit next
        · simp [escapeZero, hoctal, unescape, hexValue?]
        · simp [escapeZero, hoctal, unescape]
  rw [escapeCharacter, if_neg hzero]
  by_cases htab : character = '\t'
  · simp [htab, unescape]
  by_cases hreturn : character = '\r'
  · simp [hreturn, unescape]
  by_cases hbreak : character = '\n'
  · simp [hbreak, unescape]
  by_cases hquote : character = '"'
  · simp [hquote, unescape]
  by_cases hbackslash : character = '\\'
  · simp [hbackslash, unescape]
  simp only [htab, hreturn, hbreak, hquote, hbackslash, if_false]
  have hplain : unescape (fuel + 1) ([character] ++ (escape text ++ ['"'])) =
      character :: unescape fuel (escape text ++ ['"']) := by
    rw [List.singleton_append, unescape]
    all_goals simp_all
  split
  · exact unescape_unicodeEscape _ _ _
  · split
    · exact hplain
    · exact unescape_unicodeEscape _ _ _

theorem length_escapeCharacter_pos (character : Char) (following : List Char) :
    0 < (escapeCharacter character following).length := by
  unfold escapeCharacter escapeZero unicodeEscape
  repeat' split
  all_goals simp

theorem length_le_escape (text : List Char) : text.length ≤ (escape text).length := by
  induction text with
  | nil => simp
  | cons character text ih =>
      have hcharacter := length_escapeCharacter_pos character text
      rw [escape, List.length_append, List.length_cons]
      omega

theorem unescape_escape (text : List Char) {fuel : Nat} (hfuel : text.length < fuel) :
    unescape fuel (escape text ++ ['"']) = text := by
  induction text generalizing fuel with
  | nil =>
      obtain ⟨fuel, rfl⟩ := Nat.exists_eq_add_of_lt hfuel
      simp [escape, unescape]
  | cons character text ih =>
      rw [List.length_cons] at hfuel
      obtain ⟨fuel, rfl⟩ := Nat.exists_eq_add_one_of_ne_zero (Nat.ne_zero_of_lt hfuel)
      rw [escape, List.append_assoc, unescape_escapeCharacter, ih (by omega)]

theorem value?_quote_text (text : String) : value? (quote text) = some text := by
  have hread := unescape_escape text.toList (Nat.lt_succ_of_le (length_le_escape text.toList))
  simp [value?, quote, hread]

end ProviderForge.Quoted

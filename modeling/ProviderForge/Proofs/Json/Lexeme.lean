import ProviderForge.Proofs.Json.Source

/-!
Strings, words and numbers of any spelling are read as what they spell, whatever stands behind
them. Those who skip them get past them also where they have no value. Cursors are compared by the
text that is left; lines and columns only tell where faults are.
-/

namespace ProviderForge.Json.Reader

open Cursor

@[simp] theorem Cursor.rest_next {cursor : Cursor} {character : Char} {rest : List Char}
    (hrest : cursor.rest = character :: rest) : cursor.next.rest = rest := by
  unfold next
  split
  next hempty => simp [hempty] at hrest
  next hline => simp_all
  next hother => simp_all

theorem Cursor.rest_skip (line column : Nat) (text : List Char) :
    (skipBlanks.skip line column text).rest = text.dropWhile isBlank := by
  fun_induction skipBlanks.skip line column text with
  | case1 line column rest ih => simpa [isBlank] using ih
  | case2 line column character rest _ hblank ih => simpa [hblank] using ih
  | case3 line column character rest _ hblank => simp [hblank]
  | case4 line column => rfl

theorem Cursor.rest_skipBlanks (cursor : Cursor) :
    cursor.skipBlanks.rest = cursor.rest.dropWhile isBlank :=
  rest_skip _ _ _

theorem Cursor.rest_skipBytes {cursor : Cursor} {passed rest : List Char}
    (hrest : cursor.rest = passed ++ rest)
    (hnarrow : ∀ character ∈ passed, character.utf8Size = 1) :
    (cursor.skipBytes passed.length).rest = rest := by
  induction passed generalizing cursor with
  | nil => simpa [skipBytes] using hrest
  | cons first passed ih =>
      have hfirst : first.utf8Size = 1 := hnarrow first (by simp)
      have hpassed : ∀ character ∈ passed, character.utf8Size = 1 :=
        fun character hmem => hnarrow character (by simp [hmem])
      rw [List.length_cons, skipBytes, hrest, List.cons_append]
      split
      next heq => simp at heq
      next rest' heq =>
        obtain ⟨-, rfl⟩ := List.cons.inj heq
        exact ih rfl hpassed
      next character rest' _ heq =>
        obtain ⟨rfl, rfl⟩ := List.cons.inj heq
        simp only [hfirst, Nat.le_add_left, if_true, Nat.add_sub_cancel]
        exact ih rfl hpassed

theorem Cursor.width_narrow {passed : List Char}
    (hnarrow : ∀ character ∈ passed, character.utf8Size = 1) :
    passed.foldl (fun length character => length + character.utf8Size) 0 = passed.length := by
  have hsum : ∀ start : Nat, passed.foldl (fun length character => length + character.utf8Size)
      start = start + passed.length := by
    induction passed with
    | nil => simp
    | cons first passed ih =>
        intro start
        have hfirst : first.utf8Size = 1 := hnarrow first (by simp)
        have hrest := ih (fun character hmem => hnarrow character (by simp [hmem])) (start + 1)
        rw [List.foldl_cons, hfirst, hrest, List.length_cons]
        omega
  simpa using hsum 0

theorem utf8Size_of_hexValue {character : Char} {digit : Nat}
    (hdigit : Text.hexValue? character = some digit) : character.utf8Size = 1 := by
  have hnarrow : character.val ≤ 127 := by
    unfold Text.hexValue? at hdigit
    simp only [Char.le_def] at hdigit
    split at hdigit
    next hrange => exact UInt32.le_trans hrange.2 (by decide)
    next =>
      split at hdigit
      next hrange => exact UInt32.le_trans hrange.2 (by decide)
      next =>
        split at hdigit
        next hrange => exact UInt32.le_trans hrange.2 (by decide)
        next => cases hdigit
  exact Char.utf8Size_eq_one_iff.mpr hnarrow

theorem utf8Size_of_mapM_hexValue {unit : List Char} {digits : List Nat}
    (hdigits : unit.mapM Text.hexValue? = some digits) :
    ∀ digit ∈ unit, digit.utf8Size = 1 := by
  induction unit generalizing digits with
  | nil => exact nofun
  | cons first unit ih =>
      simp only [List.mapM_cons, Option.bind_eq_bind, Option.bind_eq_some_iff] at hdigits
      obtain ⟨value, hvalue, values, hvalues, -⟩ := hdigits
      exact List.forall_mem_cons.mpr ⟨utf8Size_of_hexValue hvalue, ih hvalues⟩

theorem hexUnit_spelled {cursor : Cursor} {unit rest : List Char} {digits : List Nat}
    (hrest : cursor.rest = unit ++ rest) (hlength : unit.length = 4)
    (hdigits : unit.mapM Text.hexValue? = some digits) :
    ∃ after, hexUnit cursor = .ok (digits.foldl (fun value digit => value * 16 + digit) 0, after) ∧
      after.rest = rest := by
  have hnarrow := utf8Size_of_mapM_hexValue hdigits
  have htake : cursor.rest.take 4 = unit := by
    rw [hrest, ← hlength, List.take_left]
  have hwidth : cursor.bytesAhead 4 = 4 := by
    rw [bytesAhead, htake, width_narrow hnarrow, hlength]
  refine ⟨cursor.skipBytes 4, ?_, ?_⟩
  · rw [hexUnit, hwidth, htake, hdigits]
    simp
  · rw [← hlength]
    exact rest_skipBytes hrest hnarrow

theorem escape_simple {cursor : Cursor} {letter character : Char} {rest : List Char}
    (hrest : cursor.rest = letter :: rest) (hletter : letter ≠ 'u')
    (hmeaning : simpleEscape? letter = some character) :
    escape cursor = .done (character, cursor.next) cursor.next := by
  unfold escape
  rw [hrest]
  split
  next heq => simp at heq
  next heq => exact absurd (List.cons.inj heq).1 hletter
  next heq =>
    obtain ⟨rfl, rfl⟩ := List.cons.inj heq
    simp [hmeaning]

/-- Behind a leading unit stands either a trailing one or something else. -/
theorem trailingUnit_parts {cursor : Cursor} {body rest : List Char} {parts : List StringPart}
    (hparts : SpellsParts body parts) (hrest : cursor.rest = body ++ '"' :: rest) :
    (∃ next others tail after, parts = .unit next :: others ∧ isTrailing next = true ∧
      SpellsParts tail others ∧ trailingUnit cursor = .ok (next, after) ∧
      after.rest = tail ++ '"' :: rest) ∨
    ((∀ next others, parts = .unit next :: others → isTrailing next = false) ∧
      ∃ fault, trailingUnit cursor = .error fault) := by
  cases hparts with
  | nil =>
      refine .inr ⟨nofun, ?_⟩
      rw [trailingUnit, hrest]
      exact ⟨_, rfl⟩
  | @cons text tail part parts hpart hparts =>
      rw [List.append_assoc] at hrest
      cases hpart with
      | @plain character hquote hbackslash hcontrol =>
          refine .inr ⟨nofun, ?_⟩
          rw [trailingUnit, hrest]
          simp only [List.cons_append, List.nil_append]
          split
          next heq => cases heq
          next heq => exact absurd (List.cons.inj heq).1 hbackslash
          next => exact ⟨_, rfl⟩
      | @letter letter character hmeaning =>
          have hletter : letter ≠ 'u' := by
            rintro rfl
            cases hmeaning
          have hnext : cursor.next.rest = letter :: (tail ++ '"' :: rest) := rest_next hrest
          refine .inr ⟨nofun, ?_⟩
          rw [trailingUnit, hrest]
          simp only [List.cons_append, hnext]
          split
          next heq => cases heq
          next heq => exact absurd (List.cons.inj heq).1 hletter
          next => exact ⟨_, rfl⟩
      | @unit unit digits hlength hdigits =>
          have hnext : cursor.next.rest = 'u' :: (unit ++ (tail ++ '"' :: rest)) := rest_next hrest
          obtain ⟨after, hunit, hafter⟩ :=
            hexUnit_spelled (rest_next hnext) hlength hdigits
          have htrailing : trailingUnit cursor =
              if isTrailing (digits.foldl (fun value digit => value * 16 + digit) 0) then
                .ok (digits.foldl (fun value digit => value * 16 + digit) 0, after)
              else .error (after.here .loneSurrogate) := by
            rw [trailingUnit, hrest]
            simp only [List.cons_append, hnext, hunit]
            rfl
          by_cases hpaired : isTrailing (digits.foldl (fun value digit => value * 16 + digit) 0)
          · exact .inl ⟨_, _, tail, after, rfl, hpaired, hparts,
              by rw [htrailing, if_pos hpaired], hafter⟩
          · refine .inr ⟨?_, _, by rw [htrailing, if_neg hpaired]⟩
            rintro next others heq
            cases heq
            simpa using hpaired

theorem escape_unit_spelled {cursor : Cursor} {unit rest : List Char} {digits : List Nat}
    (hrest : cursor.rest = 'u' :: unit ++ rest) (hlength : unit.length = 4)
    (hdigits : unit.mapM Text.hexValue? = some digits) :
    ∃ after, after.rest = rest ∧ escape cursor =
      ⟨if isTrailing (digits.foldl (fun value digit => value * 16 + digit) 0) then
          .error (after.here .loneSurrogate)
        else if isLeading (digits.foldl (fun value digit => value * 16 + digit) 0) then
          (fun paired => (pairedCharacter
            (digits.foldl (fun value digit => value * 16 + digit) 0) paired.1, paired.2)) <$>
              trailingUnit after
        else .ok (Char.ofNat (digits.foldl (fun value digit => value * 16 + digit) 0), after),
        .ok after⟩ := by
  obtain ⟨after, hunit, hafter⟩ := hexUnit_spelled (rest_next hrest) hlength hdigits
  refine ⟨after, hafter, ?_⟩
  rw [escape, hrest]
  simp only [List.cons_append, hunit]
  rfl

/-- Those who use a token get its value, if it has one, and everybody gets past it. -/
def Reading.Gives {α : Type} (reading : Reading α) (value : Option α) (rest : List Char) : Prop :=
  ∃ after, reading.continued = .ok after ∧ after.rest = rest ∧ reading.decoded.toOption = value

/-- The string of the characters so far, last first, and those found behind them, unless it was
spoiled before. -/
def stringOf (taken : List Char) (spoiled : Option Fault) (found : Option (List Char)) :
    Option String :=
  if spoiled.isSome then none
  else found.map fun found => String.ofList (taken.reverse ++ found)

theorem stringOf_cons (character : Char) (taken : List Char) (spoiled : Option Fault)
    (found : Option (List Char)) :
    stringOf taken spoiled ((character :: ·) <$> found) =
      stringOf (character :: taken) spoiled found := by
  cases found <;> simp [stringOf]

theorem stringOf_none (taken : List Char) (spoiled : Option Fault) :
    stringOf taken spoiled none = none := by
  simp [stringOf]

theorem stringTail_escape {fuel : Nat} {taken rest : List Char} {spoiled : Option Fault}
    {cursor after : Cursor} {character : Char} {continued : Except Fault Cursor}
    (hrest : cursor.rest = '\\' :: rest)
    (hescape : escape cursor.next = ⟨.ok (character, after), continued⟩) :
    stringTail (fuel + 1) taken spoiled cursor =
      stringTail fuel (character :: taken) spoiled after := by
  rw [stringTail, hrest]
  simp only [hescape]

theorem stringTail_plain {fuel : Nat} {taken rest : List Char} {spoiled : Option Fault}
    {cursor : Cursor} {character : Char} (hrest : cursor.rest = character :: rest)
    (hquote : character ≠ '"') (hbackslash : character ≠ '\\') (hcontrol : 32 ≤ character.toNat) :
    stringTail (fuel + 1) taken spoiled cursor =
      stringTail fuel (character :: taken) spoiled cursor.next := by
  rw [stringTail, hrest]
  simp only []
  rw [if_neg (Nat.not_lt.mpr hcontrol)]

/-- Half of a pair alone spoils the string, and reading goes on behind it. -/
theorem stringTail_spoil {fuel : Nat} {taken rest : List Char} {spoiled : Option Fault}
    {cursor after : Cursor} {fault : Fault} (hrest : cursor.rest = '\\' :: rest)
    (hescape : escape cursor.next = ⟨.error fault, .ok after⟩) :
    stringTail (fuel + 1) taken spoiled cursor =
      stringTail fuel taken (spoiled.or (some fault)) after := by
  rw [stringTail, hrest]
  simp only [hescape]

theorem stringTail_parts (fuel : Nat) (taken : List Char) (spoiled : Option Fault) {cursor : Cursor}
    {body rest : List Char} {parts : List StringPart} (hparts : SpellsParts body parts)
    (hfuel : parts.length < fuel) (hrest : cursor.rest = body ++ '"' :: rest) :
    (stringTail fuel taken spoiled cursor).Gives (stringOf taken spoiled (characters? parts))
      rest := by
  induction fuel generalizing taken spoiled cursor body parts with
  | zero => exact absurd hfuel (Nat.not_lt_zero _)
  | succ fuel ih =>
      cases hparts with
      | nil =>
          refine ⟨cursor.next, ?_, rest_next hrest, ?_⟩
          · rw [stringTail, hrest]
            cases spoiled <;> rfl
          · rw [stringTail, hrest]
            cases spoiled <;>
              simp [Reading.spoiledBy, Reading.done, characters?, stringOf, Except.toOption]
      | @cons text tail part parts hpart hparts =>
          have hless : parts.length < fuel := Nat.lt_of_succ_lt_succ hfuel
          rw [List.append_assoc] at hrest
          cases hpart with
          | @plain character hquote hbackslash hcontrol =>
              rw [stringTail_plain hrest hquote hbackslash hcontrol, characters?, stringOf_cons]
              exact ih (character :: taken) spoiled hparts hless (rest_next hrest)
          | @letter letter character hmeaning =>
              have hletter : letter ≠ 'u' := by
                rintro rfl
                cases hmeaning
              have hnext : cursor.next.rest = letter :: (tail ++ '"' :: rest) := rest_next hrest
              rw [stringTail_escape hrest (escape_simple hnext hletter hmeaning), characters?,
                stringOf_cons]
              exact ih (character :: taken) spoiled hparts hless (rest_next hnext)
          | @unit unit digits hlength hdigits =>
              obtain ⟨after, hafter, hescape⟩ :=
                escape_unit_spelled (rest_next hrest) hlength hdigits
              generalize digits.foldl (fun value digit => value * 16 + digit) 0 = value
                at hescape ⊢
              have hspoil : ∀ fault, escape cursor.next = ⟨.error fault, .ok after⟩ →
                  characters? (.unit value :: parts) = none →
                  (stringTail (fuel + 1) taken spoiled cursor).Gives
                    (stringOf taken spoiled (characters? (.unit value :: parts))) rest := by
                intro fault hfault hnone
                have hspoiled : stringOf taken (spoiled.or (some fault)) (characters? parts) =
                    none := by
                  cases spoiled <;> rfl
                rw [stringTail_spoil hrest hfault, hnone, stringOf_none, ← hspoiled]
                exact ih taken (spoiled.or (some fault)) hparts hless hafter
              by_cases htrailing : isTrailing value = true
              · rw [if_pos htrailing] at hescape
                exact hspoil _ hescape (characters?_trailing htrailing)
              rw [if_neg htrailing] at hescape
              by_cases hleading : isLeading value = true
              · rw [if_pos hleading] at hescape
                rcases trailingUnit_parts hparts hafter with
                  ⟨next, others, left, afterNext, rfl, hnext, hothers, hunit, hafterNext⟩ |
                    ⟨hnext, fault, hunit⟩
                · rw [hunit] at hescape
                  rw [stringTail_escape hrest hescape,
                    characters?_paired htrailing hleading hnext, stringOf_cons]
                  exact ih (pairedCharacter value next :: taken) spoiled hothers
                    (Nat.lt_trans (Nat.lt_succ_self _) hless) hafterNext
                · rw [hunit] at hescape
                  exact hspoil fault hescape (characters?_alone htrailing hleading hnext)
              · rw [if_neg hleading] at hescape
                rw [stringTail_escape hrest hescape, characters?_plain htrailing hleading,
                  stringOf_cons]
                exact ih (Char.ofNat value :: taken) spoiled hparts hless hafter

theorem string_spelled (fuel : Nat) {cursor : Cursor} {text rest : List Char}
    {value : Option String} (htext : SpellsString text value) (hfuel : text.length ≤ fuel)
    (hrest : cursor.rest = text ++ rest) :
    ∃ inner, cursor.rest = '"' :: inner ∧ (string fuel cursor.next).Gives value rest := by
  cases htext with
  | @intro body parts hparts =>
      have hquote : cursor.rest = '"' :: (body ++ '"' :: rest) := by simpa using hrest
      have hlength := hparts.length_le
      simp only [List.length_append, List.length_cons] at hfuel
      have hgives := stringTail_parts fuel [] none hparts (by omega) (rest_next hquote)
      exact ⟨_, hquote, by simpa [stringOf, string] using hgives⟩

theorem word_written {cursor : Cursor} {letters rest : List Char}
    (hrest : cursor.rest = letters ++ rest) :
    ∃ after, word cursor letters = .ok after ∧ after.rest = rest := by
  induction letters generalizing cursor with
  | nil => exact ⟨cursor, rfl, hrest⟩
  | cons letter letters ih =>
      obtain ⟨after, hword, hafter⟩ := ih (rest_next hrest)
      refine ⟨after, ?_, hafter⟩
      rw [word, hrest]
      simpa using hword

def EndsNumber (text : List Char) : Prop :=
  ∀ character ∈ text.head?, character.isDigit = false ∧ character ≠ '.' ∧ character ≠ 'e' ∧
    character ≠ 'E'

theorem digits_run {cursor : Cursor} {found rest : List Char}
    (hrest : cursor.rest = found ++ rest) (hfound : ∀ digit ∈ found, digit.isDigit = true)
    (hends : ∀ character ∈ rest.head?, character.isDigit = false) :
    ∃ after, digits cursor = (found, after) ∧ after.rest = rest := by
  have htaken : cursor.rest.takeWhile Char.isDigit = found := by
    rw [hrest, List.takeWhile_append_of_pos hfound]
    cases rest with
    | nil => simp
    | cons character rest =>
        have hstop := hends character (by simp)
        simp [hstop]
  refine ⟨(digits cursor).2, ?_, ?_⟩
  · rw [digits, htaken]
  · rw [digits, htaken, hrest]
    simp

theorem isSome_exponentOverflow? (value : Nat) (cursor other : Cursor) (text : List Char) :
    (exponentOverflow? value cursor text).isSome = (exponentOverflow? value other text).isSome := by
  induction text generalizing value cursor other with
  | nil => rfl
  | cons digit text ih =>
      simp only [exponentOverflow?]
      split
      · exact ih ..
      · rfl

/-- Where a number stands shows in its faults only. -/
theorem toOption_floatingValue (isNegative : Bool) (whole fraction : List Char)
    (exponent : Option (Bool × List Char)) (start other after behind : Cursor) :
    (floatingValue isNegative whole fraction
      (exponent.map fun part => (part.1, part.2, start)) after).toOption =
    (floatingValue isNegative whole fraction
      (exponent.map fun part => (part.1, part.2, other)) behind).toOption := by
  cases exponent with
  | none =>
      simp only [floatingValue, Option.map_none]
      cases Number.magnitude? whole fraction 0 <;> rfl
  | some part =>
      have hoverflow := isSome_exponentOverflow? 0 start other part.2
      simp only [floatingValue, Option.map_some]
      cases hstart : exponentOverflow? 0 start part.2 with
      | none =>
          obtain hother : exponentOverflow? 0 other part.2 = none := by
            simpa [hstart] using hoverflow.symm
          simp only [hother]
          split <;> rfl
      | some stop =>
          obtain ⟨place, hother⟩ : ∃ place, exponentOverflow? 0 other part.2 = some place :=
            Option.isSome_iff_exists.mp (by rw [← hoverflow, hstart]; rfl)
          simp only [hother]
          split <;> rfl

theorem toOption_integerValue (isNegative : Bool) (whole : List Char) (after behind : Cursor) :
    (integerValue isNegative whole after).toOption =
      (integerValue isNegative whole behind).toOption := by
  simp only [integerValue]
  split
  · rfl
  · split
    · rfl
    · exact toOption_floatingValue isNegative whole [] none after after after behind

theorem exponentDigits_spelled {cursor : Cursor} {text rest : List Char} (htext : AreDigits text)
    (hrest : cursor.rest = text ++ rest) (hends : EndsNumber rest) :
    ∃ after, exponentDigits cursor = .done (text, after) after ∧ after.rest = rest := by
  obtain ⟨after, hdigits, hafter⟩ :=
    digits_run hrest htext.all fun character hmem => (hends character hmem).1
  obtain ⟨first, others, rfl, hfirst⟩ := htext.exists_cons
  refine ⟨after, ?_, hafter⟩
  rw [exponentDigits, hrest]
  simp only [List.cons_append, hfirst, if_true, hdigits]

theorem exponentPart_spelled (isNegative : Bool) (whole fraction : List Char) {cursor : Cursor}
    {mark : Char} {text rest : List Char} {exponent : Bool × List Char}
    (htext : SpellsExponent (mark :: text) (some exponent)) (hrest : cursor.rest = text ++ rest)
    (hends : EndsNumber rest) :
    ∃ start after, exponentPart isNegative whole fraction cursor =
      ⟨floatingValue isNegative whole fraction (some (exponent.1, exponent.2, start)) after,
        .ok after⟩ ∧ after.rest = rest := by
  cases htext with
  | unsigned _ hdigits =>
      obtain ⟨after, hread, hafter⟩ := exponentDigits_spelled hdigits hrest hends
      obtain ⟨first, others, rfl, hfirst⟩ := hdigits.exists_cons
      refine ⟨cursor, after, ?_, hafter⟩
      have hunsigned : ∀ sign ∈ ['+', '-'], ∀ tail, first :: (others ++ rest) = sign :: tail →
          False := by
        rintro sign hsign tail heq
        obtain ⟨rfl, -⟩ := List.cons.inj heq
        simp only [List.mem_cons, List.not_mem_nil, or_false] at hsign
        rcases hsign with rfl | rfl <;> cases hfirst
      have hplus := hunsigned '+' (by decide)
      have hminus := hunsigned '-' (by decide)
      rw [exponentPart, hrest]
      simp only [List.cons_append, hread, Reading.done]
  | raised _ hdigits =>
      obtain ⟨after, hread, hafter⟩ := exponentDigits_spelled hdigits (rest_next hrest) hends
      refine ⟨cursor.next, after, ?_, hafter⟩
      rw [exponentPart, hrest]
      simp only [List.cons_append, hread, Reading.done]
  | reduced _ hdigits =>
      obtain ⟨after, hread, hafter⟩ := exponentDigits_spelled hdigits (rest_next hrest) hends
      refine ⟨cursor.next, after, ?_, hafter⟩
      rw [exponentPart, hrest]
      simp only [List.cons_append, hread, Reading.done]

theorem head_exponent {text rest : List Char} {exponent : Option (Bool × List Char)}
    (htext : SpellsExponent text exponent) (hends : EndsNumber rest) :
    ∀ character ∈ (text ++ rest).head?, character.isDigit = false ∧ character ≠ '.' := by
  rcases htext.cases_mark with ⟨rfl, rfl⟩ | ⟨mark, others, part, rfl, hmark, rfl⟩
  · exact fun character hmem => ⟨(hends character hmem).1, (hends character hmem).2.1⟩
  · rintro character hmem
    obtain rfl : mark = character := by simpa using hmem
    rcases hmark with rfl | rfl <;> decide

theorem fractionPart_spelled (isNegative : Bool) (whole : List Char) {cursor : Cursor}
    {fraction text rest : List Char} {exponent : Option (Bool × List Char)}
    (hfraction : AreDigits fraction) (htext : SpellsExponent text exponent)
    (hrest : cursor.rest = fraction ++ (text ++ rest)) (hends : EndsNumber rest) :
    ∃ start after, fractionPart isNegative whole cursor =
      ⟨floatingValue isNegative whole fraction
        (exponent.map fun part => (part.1, part.2, start)) after, .ok after⟩ ∧
      after.rest = rest := by
  obtain ⟨after, hdigits, hafter⟩ := digits_run hrest hfraction.all
    fun character hmem => (head_exponent htext hends character hmem).1
  have hnonempty : fraction.isEmpty = false := by simpa using hfraction.nonempty
  rw [fractionPart, hdigits]
  simp only [hnonempty, Bool.false_eq_true, if_false]
  rcases htext.cases_mark with ⟨rfl, rfl⟩ | ⟨mark, others, part, rfl, hmark, rfl⟩
  · refine ⟨after, after, ?_, hafter⟩
    rw [List.nil_append] at hafter
    split
    next heq => exact absurd rfl (hends 'e' (by simp [← hafter, heq])).2.2.1
    next heq => exact absurd rfl (hends 'E' (by simp [← hafter, heq])).2.2.2
    next => rfl
  · obtain ⟨start, last, hexponent, hlast⟩ :=
      exponentPart_spelled isNegative whole fraction htext (rest_next hafter) hends
    refine ⟨start, last, ?_, hlast⟩
    rcases hmark with rfl | rfl <;> (rw [hafter]; exact hexponent)

theorem magnitude_spelled {isNegative : Bool} {cursor : Cursor} {text rest : List Char}
    {numeral : Numeral} (htext : SpellsMagnitude isNegative text numeral)
    (hrest : cursor.rest = text ++ rest) (hends : EndsNumber rest) :
    (magnitude isNegative cursor).Gives numeral.atom? rest := by
  cases htext with
  | @intro whole point fraction tail exponent hwhole hzero hfraction htail =>
      rw [List.append_assoc, List.append_assoc] at hrest
      obtain ⟨first, others, rfl, hfirst⟩ := hwhole.exists_cons
      have hstop : ∀ character ∈ (point ++ (tail ++ rest)).head?, character.isDigit = false := by
        cases hfraction with
        | absent => exact fun character hmem => (head_exponent htail hends character hmem).1
        | present => simp
      obtain ⟨after, hdigits, hafter⟩ := digits_run hrest hwhole.all hstop
      have hpadded : ¬ (first = '0' ∧ 1 < (first :: others).length) := by
        rintro ⟨rfl, hlength⟩
        rw [hzero rfl] at hlength
        exact absurd hlength (by decide)
      rw [magnitude, hrest]
      simp only [List.cons_append, hfirst, Bool.not_true, Bool.false_eq_true, if_false, hdigits,
        hpadded]
      cases hfraction with
      | absent =>
          rw [List.nil_append] at hafter
          rcases htail.cases_mark with ⟨rfl, rfl⟩ | ⟨mark, text, part, rfl, hmark, rfl⟩
          · rw [List.nil_append] at hafter
            refine ⟨after, ?_, hafter, ?_⟩
            all_goals
              split
              next heq => exact absurd rfl (hends '.' (by simp [← hafter, heq])).2.1
              next heq => exact absurd rfl (hends 'e' (by simp [← hafter, heq])).2.2.1
              next heq => exact absurd rfl (hends 'E' (by simp [← hafter, heq])).2.2.2
              next => first | rfl | exact toOption_integerValue ..
          · obtain ⟨start, last, hexponent, hlast⟩ :=
              exponentPart_spelled isNegative (first :: others) [] htail (rest_next hafter) hends
            have hread : ∀ {reading : Reading Atom}, reading =
                exponentPart isNegative (first :: others) [] after.next →
                reading.Gives (Numeral.atom? ⟨isNegative, first :: others, [], some part⟩)
                  rest := by
              rintro _ rfl
              rw [hexponent]
              exact ⟨last, rfl, hlast,
                toOption_floatingValue isNegative (first :: others) [] (some part) ..⟩
            rcases hmark with rfl | rfl <;> exact hread (by rw [hafter]; rfl)
      | present hpoint =>
          obtain ⟨start, last, hread, hlast⟩ := fractionPart_spelled isNegative (first :: others)
            hpoint htail (rest_next hafter) hends
          rw [hafter]
          simp only [List.cons_append, hread]
          obtain ⟨digit, digits, rfl, -⟩ := hpoint.exists_cons
          exact ⟨last, rfl, hlast, toOption_floatingValue isNegative (first :: others)
            (digit :: digits) exponent ..⟩

end ProviderForge.Json.Reader

import ProviderForge.Proofs.Token.Quoted
import ProviderForge.Token.Lexer

namespace ProviderForge

open Lexeme Text

namespace Lexeme

theorem afterBracedHex_digitChar {digit : Nat} (hdigit : digit < 16) {count : Nat}
    (hcount : count < 6) (sofar : Nat) (rest : List Char) :
    afterBracedHex sofar count (Nat.digitChar digit :: rest) =
      afterBracedHex (sofar * 16 + digit) (count + 1) rest := by
  obtain ⟨hopen, hvalue⟩ := Quoted.hexValue?_digitChar hdigit
  have hline : Nat.digitChar digit ≠ '_' := by
    intro hline
    rw [hline] at hvalue
    simp [hexValue?] at hvalue
  rw [afterBracedHex, if_neg hopen, if_neg hline, hvalue]
  simp only
  rw [if_neg (Nat.ne_of_lt hcount)]

theorem afterBracedHex_toDigits {more value : Nat} (hvalue : value < 16 * Nat.pow 16 more)
    (rest : List Char) :
    ∃ scale digits, 0 < digits ∧ digits ≤ more + 1 ∧ ∀ sofar count, count + digits ≤ 6 →
      afterBracedHex sofar count (Nat.toDigits 16 value ++ rest) =
        afterBracedHex (sofar * scale + value) (count + digits) rest := by
  have hshort : ∀ value < 16, ∀ sofar count rest, count + 1 ≤ 6 →
      afterBracedHex sofar count (Nat.toDigits 16 value ++ rest) =
        afterBracedHex (sofar * 16 + value) (count + 1) rest := by
    intro value hsmall sofar count rest hcount
    rw [Nat.toDigits_of_lt_base hsmall, List.singleton_append,
      afterBracedHex_digitChar hsmall hcount]
  induction more generalizing value rest with
  | zero =>
      exact ⟨16, 1, by omega, by omega, fun sofar count => hshort value hvalue sofar count rest⟩
  | succ more ih =>
      by_cases hsmall : value < 16
      · exact ⟨16, 1, by omega, by omega, fun sofar count => hshort value hsmall sofar count rest⟩
      · have hpower : Nat.pow 16 (more + 1) = Nat.pow 16 more * 16 := rfl
        have hfewer : value / 16 < 16 * Nat.pow 16 more := by omega
        obtain ⟨scale, digits, -, hdigits, hothers⟩ :=
          ih hfewer (Nat.digitChar (value % 16) :: rest)
        refine ⟨scale * 16, digits + 1, by omega, by omega, fun sofar count hcount => ?_⟩
        have hsum : (sofar * scale + value / 16) * 16 + value % 16 =
            sofar * (scale * 16) + value := by
          rw [← Nat.mul_assoc, Nat.add_mul, Nat.add_assoc, Nat.div_add_mod']
        rw [Nat.toDigits_of_base_le (by decide) (by omega), List.append_assoc,
          List.singleton_append, hothers _ _ (by omega),
          afterBracedHex_digitChar (Nat.mod_lt _ (by decide)) (by omega), hsum, Nat.add_assoc]

theorem afterEscape_unicode (character : Char) (rest : List Char) :
    QuotedKind.text.afterEscape ((Quoted.unicodeEscape character).tail ++ rest) = some rest := by
  have hvalid : character.toNat.isValidChar := character.valid
  have hvalue : character.toNat < 16 * Nat.pow 16 5 := by
    have hpower : Nat.pow 16 5 = 0x100000 := rfl
    simp only [Nat.isValidChar] at hvalid
    omega
  obtain ⟨_, digits, hpositive, hlimit, hread⟩ :=
    afterBracedHex_toDigits hvalue ('\x7d' :: rest)
  have hbraced : afterBracedHex 0 0 (Nat.toDigits 16 character.toNat ++ '\x7d' :: rest) =
      some (character.toNat, rest) := by
    rw [hread 0 0 (by omega), Nat.zero_mul, Nat.zero_add, Nat.zero_add, afterBracedHex,
      if_pos rfl, if_pos ⟨hpositive, hvalid⟩]
  simp [Quoted.unicodeEscape, QuotedKind.afterEscape, afterUnicodeEscape, hbraced, QuotedKind.text]

theorem afterCooked_escapeCharacter (character : Char) (following rest : List Char) (fuel : Nat) :
    QuotedKind.text.afterCooked (fuel + 1) (Quoted.escapeCharacter character following ++ rest) =
      QuotedKind.text.afterCooked fuel rest := by
  have hescape : ∀ escaped behind,
      QuotedKind.text.afterEscape (escaped ++ behind) = some behind →
      QuotedKind.text.afterCooked (fuel + 1) ('\\' :: escaped ++ behind) =
        QuotedKind.text.afterCooked fuel behind := by
    intro escaped behind hpassed
    rw [List.cons_append, QuotedKind.afterCooked, hpassed]
  have hunicode : QuotedKind.text.afterCooked (fuel + 1)
      (Quoted.unicodeEscape character ++ rest) = QuotedKind.text.afterCooked fuel rest :=
    hescape _ rest (afterEscape_unicode character rest)
  unfold Quoted.escapeCharacter Quoted.escapeZero
  by_cases hzero : character.toNat = 0
  · rw [if_pos hzero]
    cases following with
    | nil => exact hescape ['0'] rest rfl
    | cons next following =>
        simp only
        split
        · exact hescape ['x', '0', '0'] rest rfl
        · exact hescape ['0'] rest rfl
  rw [if_neg hzero]
  by_cases htab : character = '\t'
  · rw [if_pos htab]
    exact hescape ['t'] rest rfl
  rw [if_neg htab]
  by_cases hreturn : character = '\r'
  · rw [if_pos hreturn]
    exact hescape ['r'] rest rfl
  rw [if_neg hreturn]
  by_cases hbreak : character = '\n'
  · rw [if_pos hbreak]
    exact hescape ['n'] rest rfl
  rw [if_neg hbreak]
  by_cases hquote : character = '"'
  · rw [if_pos hquote]
    exact hescape ['"'] rest rfl
  rw [if_neg hquote]
  by_cases hbackslash : character = '\\'
  · rw [if_pos hbackslash]
    exact hescape ['\\'] rest rfl
  rw [if_neg hbackslash]
  split
  · exact hunicode
  · split
    · rw [List.singleton_append, QuotedKind.afterCooked]
      · rfl
      all_goals simp_all
    · exact hunicode

theorem afterCooked_escape (text rest : List Char) {fuel : Nat} (hfuel : text.length < fuel) :
    QuotedKind.text.afterCooked fuel (Quoted.escape text ++ '"' :: rest) =
      some (afterSuffix rest) := by
  induction text generalizing fuel with
  | nil =>
      obtain ⟨fuel, rfl⟩ := Nat.exists_eq_add_of_lt hfuel
      rfl
  | cons character text ih =>
      rw [List.length_cons] at hfuel
      obtain ⟨fuel, rfl⟩ := Nat.exists_eq_add_one_of_ne_zero (Nat.ne_zero_of_lt hfuel)
      rw [Quoted.escape, List.append_assoc, afterCooked_escapeCharacter, ih (by omega)]

theorem afterLiteral_quote (text : String) (rest : List Char) :
    afterLiteral ((Quoted.quote text).toList ++ rest) = some (afterSuffix rest) := by
  have hlength := Quoted.length_le_escape text.toList
  simp only [Quoted.quote, String.toList_ofList, List.cons_append, List.append_assoc,
    List.nil_append]
  rw [afterLiteral, afterStringLiteral, QuotedKind.afterString, afterCooked_escape]
  · rfl
  · rw [List.length_append, List.length_cons]
    omega

end Lexeme

namespace Lexer

def proceed (fuel : Nat) (stack : List OpenGroup) (taken : List Token) : Step → Option Code
  | .skip rest => run fuel stack taken rest
  | .take tokens rest => run fuel stack (tokens.reverse ++ taken) rest
  | .opening delimiter rest => run fuel (⟨delimiter, taken⟩ :: stack) [] rest
  | .closing delimiter rest =>
      match stack with
      | [] => none
      | frame :: stack =>
          if frame.delimiter = delimiter then
            run fuel stack (.group delimiter taken.reverse :: frame.before) rest
          else none
  | .fail => none

-- Without the seal the two sides are compared by evaluating the step.
seal step in
theorem run_cons (fuel : Nat) (stack : List OpenGroup) (taken : List Token) (character : Char)
    (rest : List Char) :
    run (fuel + 1) stack taken (character :: rest) =
      proceed fuel stack taken (step character rest) := by
  rfl

theorem run_nil (fuel : Nat) (taken : List Token) :
    run (fuel + 1) [] taken [] = some taken.reverse := by
  rfl

theorem leafStep_slash {mark : Char} (hmark : mark = '/' ∨ mark = '*') (text : List Char) :
    leafStep ('/' :: mark :: text) = .fail := by
  have hinteger : afterInteger ('/' :: mark :: text) = none := by
    have hdigits : afterDigits 10 true ('/' :: mark :: text) = none := by
      simp [afterDigits, Text.isAsciiDigit, Text.hexValue?]
    change (afterDigits 10 true ('/' :: mark :: text)).bind afterNumberSuffix = none
    rw [hdigits]
    rfl
  have hliteral : afterLiteral ('/' :: mark :: text) = none := by
    simp [afterLiteral, afterStringLiteral, afterCharacterLiteral, afterFloat, Text.isAsciiDigit,
      hinteger]
  have hpunct : splitPunct? ('/' :: mark :: text) = none := by
    rcases hmark with rfl | rfl <;>
      simp [splitPunct?, splitPunctuation?, startsComment, startsWith]
  have hname : splitPlainIdentifier? ('/' :: mark :: text) = none := by
    have hstart : Text.isIdentifierStart '/' = false := by decide +kernel
    simp [splitPlainIdentifier?, splitIdentifier?, splitName?, hstart]
  have herror : startsWith errorMark ('/' :: mark :: text) = false := by
    have hopening : errorMark = '(' :: errorMark.tail := by decide +kernel
    rw [startsWith, hopening, List.isPrefixOf]
    rfl
  simp [leafStep, splitLeaf?, hliteral, hpunct, hname, herror]

/-- A documentation comment is read as its tokens, unless a carriage return keeps it from being
one: then nothing reads on from it. -/
theorem run_comment {isInner : Bool} {mark : Char} {text line rest : List Char}
    (hmark : mark = '/' ∨ mark = '*')
    (hcomment : Lexeme.comment? ('/' :: mark :: text) = some (.doc isInner line rest))
    (fuel : Nat) (stack : List OpenGroup) (taken : List Token) :
    run (fuel + 1) stack taken ('/' :: mark :: text) =
      if hasBareReturn line then none
      else run fuel stack ((docTokens isInner line).reverse ++ taken) rest := by
  have hslash : Text.isCodeBlank '/' = false := by decide
  have hstep : step '/' (mark :: text) =
      if hasBareReturn line then .fail else .take (docTokens isInner line) rest := by
    simp only [step, hslash, hcomment, leafStep_slash hmark, Bool.false_eq_true, if_false]
  rw [run_cons, hstep]
  split <;> rfl

/-- A text that is a documentation comment and the end of its line has the tokens of the comment,
unless a carriage return keeps it from being one. -/
theorem ofText?_comment {isInner : Bool} {mark : Char} {text line : List Char}
    (hmark : mark = '/' ∨ mark = '*')
    (hcomment : Lexeme.comment? ('/' :: mark :: text) = some (.doc isInner line ['\n'])) :
    Code.ofText? ('/' :: mark :: text) =
      if hasBareReturn line then none else some (docTokens isInner line) := by
  have hbreak : Text.isCodeBlank '\n' = true := by decide
  have hskip : step '\n' [] = .skip [] := by simp only [step, hbreak, if_true]
  have hstart : withoutByteOrderMark ('/' :: mark :: text) = '/' :: mark :: text := by
    simp [withoutByteOrderMark]
  rw [Code.ofText?, hstart, run_comment hmark hcomment]
  by_cases hbare : hasBareReturn line
  · simp only [hbare, if_true]
  · simp only [hbare, Bool.false_eq_true, if_false, List.length_cons]
    rw [run_cons, hskip, proceed, run_nil]
    simp

theorem leafStep_quote (text : String) (rest : List Char) :
    leafStep ((Quoted.quote text).toList ++ ']' :: rest) =
      .take [.literal (Quoted.quote text)] (']' :: rest) := by
  have hstart : isIdentifierStart ']' = false := by decide +kernel
  have hsuffix : afterSuffix (']' :: rest) = ']' :: rest := by
    simp [afterSuffix, splitName?, hstart]
  simp [leafStep, splitLeaf?, afterLiteral_quote, hsuffix]

theorem step_quote (text : String) (rest : List Char) :
    step '"' (Quoted.escape text.toList ++ '"' :: ']' :: rest) =
      .take [.literal (Quoted.quote text)] (']' :: rest) := by
  have hquote : '"' :: (Quoted.escape text.toList ++ '"' :: ']' :: rest) =
      (Quoted.quote text).toList ++ ']' :: rest := by
    simp [Quoted.quote]
  rw [← leafStep_quote, ← hquote]
  rfl

theorem run_attribute (fuel : Nat) (stack : List OpenGroup) (taken : List Token) (text : String)
    (ending : List Char) :
    run (fuel + 8) stack taken (['#', '[', 'd', 'o', 'c', ' ', '=', ' '] ++
      (Quoted.quote text).toList ++ ']' :: ending) =
      run fuel stack ((docTokens false text.toList).reverse ++ taken) ending := by
  have hhash (rest : List Char) :
      step '#' ('[' :: rest) = .take [.punct '#' .alone] ('[' :: rest) := rfl
  have hopening (rest : List Char) : step '[' rest = .opening .bracket rest := rfl
  have hdoc (rest : List Char) :
      step 'd' ('o' :: 'c' :: ' ' :: rest) = .take [.ident "doc"] (' ' :: rest) := rfl
  have hblank (rest : List Char) : step ' ' rest = .skip rest := rfl
  have hequals (rest : List Char) :
      step '=' (' ' :: rest) = .take [.punct '=' .alone] (' ' :: rest) := rfl
  have hclosing (rest : List Char) : step ']' rest = .closing .bracket rest := rfl
  simp only [Quoted.quote, String.toList_ofList, List.cons_append, List.nil_append,
    List.append_assoc]
  rw [run_cons, hhash, proceed, run_cons, hopening, proceed, run_cons, hdoc, proceed, run_cons,
    hblank, proceed, run_cons, hequals, proceed, run_cons, hblank, proceed, run_cons, step_quote,
    proceed, run_cons, hclosing]
  simp only [proceed, if_true, docTokens, String.ofList_toList]
  rfl

theorem ofText?_attribute (text : String) {ending : List Char}
    (hending : ending = [] ∨ ending = ['\n']) :
    Code.ofText? (['#', '[', 'd', 'o', 'c', ' ', '=', ' '] ++ (Quoted.quote text).toList ++
      ']' :: ending) = some (docTokens false text.toList) := by
  have hbreak : step '\n' [] = .skip [] := rfl
  have hstart (rest : List Char) : withoutByteOrderMark ('#' :: rest) = '#' :: rest := by
    simp [withoutByteOrderMark]
  have hlength : ∃ fuel, (['#', '[', 'd', 'o', 'c', ' ', '=', ' '] ++
      (Quoted.quote text).toList ++ ']' :: ending).length + 1 = fuel + ending.length + 1 + 8 :=
    ⟨(Quoted.quote text).toList.length + 1, by simp; omega⟩
  obtain ⟨fuel, hfuel⟩ := hlength
  rw [Code.ofText?, List.cons_append, List.cons_append, hstart, ← List.cons_append,
    ← List.cons_append, hfuel, run_attribute, List.append_nil]
  rcases hending with rfl | rfl
  · rw [run_nil, List.reverse_reverse]
  · rw [run_cons, hbreak, proceed, List.length_singleton, run_nil, List.reverse_reverse]

end Lexer

end ProviderForge

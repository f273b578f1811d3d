import ProviderForge.Grammar.Basic
import ProviderForge.Proofs.Name.Words
import ProviderForge.Proofs.Token.Lexer

namespace ProviderForge

open Lexeme Name Text Result

namespace Lexeme

theorem afterRaw_of_unquoted (kind : QuotedKind) {text : List Char} (hquote : '"' ∉ text) :
    kind.afterRaw text = none := by
  unfold QuotedKind.afterRaw
  dsimp only
  split
  next rest hrest =>
    exact absurd (List.drop_subset _ _ (hrest ▸ List.mem_cons_self)) hquote
  next => rfl

theorem afterStringLiteral_of_unquoted {text : List Char} (hquote : '"' ∉ text) :
    afterStringLiteral text = none := by
  unfold afterStringLiteral
  split
  · simp at hquote
  · exact afterRaw_of_unquoted _ fun hmem => hquote (by simp [hmem])
  · simp at hquote
  · exact afterRaw_of_unquoted _ fun hmem => hquote (by simp [hmem])
  · simp at hquote
  · exact afterRaw_of_unquoted _ fun hmem => hquote (by simp [hmem])
  · rfl

theorem afterCharacterLiteral_of_unquoted {text : List Char} (hquote : '\'' ∉ text) :
    afterCharacterLiteral text = none := by
  unfold afterCharacterLiteral
  split
  · simp at hquote
  · simp at hquote
  · rfl

private theorem start_facts : ∀ point < 128, canStart (Char.ofNat point) = true →
    isCodeBlank (Char.ofNat point) = false ∧
      Delimiter.ofOpening? (Char.ofNat point) = none ∧
      Delimiter.ofClosing? (Char.ofNat point) = none ∧
      punctuation.contains (Char.ofNat point) = false ∧
      isAsciiDigit (Char.ofNat point) = false ∧
      (hexValue? (Char.ofNat point)).all (10 ≤ ·) = true := by
  decide +kernel

/-- The character begins an identifier, and nothing else. -/
structure StartsOnlyName (character : Char) : Prop where
  canStart : canStart character = true
  isASCII : character.toNat < 128
  noBlank : isCodeBlank character = false
  noOpening : Delimiter.ofOpening? character = none
  noClosing : Delimiter.ofClosing? character = none
  noPunctuation : punctuation.contains character = false
  noDigit : isAsciiDigit character = false
  noSmallDigit : ∀ digit, hexValue? character = some digit → 10 ≤ digit

theorem startsOnlyName_of_canStart {character : Char} (hstart : canStart character = true) :
    StartsOnlyName character := by
  have hsmall := toNat_of_canContinue (canContinue_of_canStart hstart)
  have hfacts := start_facts character.toNat hsmall
  rw [Char.ofNat_toNat] at hfacts
  obtain ⟨hblank, hopening, hclosing, hpunctuation, hdigit, hhex⟩ := hfacts hstart
  exact {
    canStart := hstart
    isASCII := hsmall
    noBlank := hblank
    noOpening := hopening
    noClosing := hclosing
    noPunctuation := hpunctuation
    noDigit := hdigit
    noSmallDigit := fun digit hvalue => by simpa [hvalue] using hhex }

theorem StartsOnlyName.ne {character other : Char} (hstarts : StartsOnlyName character)
    (hother : Name.canStart other = false) : character ≠ other := by
  rintro rfl
  rw [hstarts.canStart] at hother
  cases hother

theorem afterInteger_of_start {first : Char} (hstarts : StartsOnlyName first) (rest : List Char) :
    afterInteger (first :: rest) = none := by
  have hdigits : afterDigits 10 true (first :: rest) = none := by
    rw [afterDigits, if_neg (by simp [hstarts.noDigit])]
    split
    · rfl
    · split
      next digit hvalue => rw [if_neg (Nat.not_lt.mpr (hstarts.noSmallDigit digit hvalue))]; rfl
      next => rfl
  have hzero : first ≠ '0' := hstarts.ne (by decide)
  unfold afterInteger
  dsimp only
  split
  next heq => exact absurd (List.cons.inj heq).1 hzero
  next heq => exact absurd (List.cons.inj heq).1 hzero
  next heq => exact absurd (List.cons.inj heq).1 hzero
  next => rw [hdigits]; rfl

theorem afterLiteral_of_start {first : Char} (hstarts : StartsOnlyName first) {rest : List Char}
    (hquote : '"' ∉ first :: rest) (hapostrophe : '\'' ∉ first :: rest) :
    afterLiteral (first :: rest) = none := by
  have hfloat : afterFloat (first :: rest) = none := by
    rw [afterFloat, if_neg (by simp [hstarts.noDigit])]
  rw [afterLiteral, afterStringLiteral_of_unquoted hquote,
    afterCharacterLiteral_of_unquoted hapostrophe, hfloat, afterInteger_of_start hstarts]
  rfl

theorem splitPunct?_of_start {first : Char} (hstarts : StartsOnlyName first) (rest : List Char) :
    splitPunct? (first :: rest) = none := by
  have hnone : splitPunctuation? (first :: rest) = none := by
    rw [splitPunctuation?]
    split
    · rfl
    · rw [hstarts.noPunctuation]
      rfl
  rw [splitPunct?, hnone]

theorem comment?_of_start {first : Char} (hstarts : StartsOnlyName first) (rest : List Char) :
    comment? (first :: rest) = none := by
  have hslash : first ≠ '/' := hstarts.ne (by decide)
  simp [comment?, hslash]

end Lexeme

/-- A text that begins as an identifier and is all of one, without a quote, is one token. -/
theorem Code.ofText?_identifier {first : Char} (hstarts : StartsOnlyName first)
    {rest : List Char} (hquote : '"' ∉ first :: rest) (hapostrophe : '\'' ∉ first :: rest)
    (hname : splitPlainIdentifier? (first :: rest) = some (first :: rest, [])) :
    Code.ofText? (first :: rest) = some [.ident (String.ofList (first :: rest))] := by
  have hmark : Lexer.withoutByteOrderMark (first :: rest) = first :: rest := by
    have hsmall := hstarts.isASCII
    rw [Lexer.withoutByteOrderMark, if_neg (by omega)]
  have hleaf : Lexer.leafStep (first :: rest) =
      .take [.ident (String.ofList (first :: rest))] [] := by
    simp only [Lexer.leafStep, Lexer.splitLeaf?, afterLiteral_of_start hstarts hquote hapostrophe,
      splitPunct?_of_start hstarts, hname]
  have hstep : Lexer.step first rest = .take [.ident (String.ofList (first :: rest))] [] := by
    simp only [Lexer.step, hstarts.noBlank, comment?_of_start hstarts, hstarts.noOpening,
      hstarts.noClosing, hleaf, Bool.false_eq_true, if_false]
  rw [Code.ofText?, hmark, List.length_cons, Lexer.run_cons, hstep]
  rfl

namespace Lexeme

theorem splitName?_word {first : Char} {rest : List Char} (hstart : canStart first = true)
    (hrest : rest.all canContinue = true) :
    splitName? (first :: rest) = some (first :: rest, []) := by
  have hfirst : isIdentifierStart first = true := by
    simp only [canStart, isIdentifierStart, Bool.or_eq_true] at hstart ⊢
    exact .inl hstart.symm
  have hothers : ∀ character ∈ rest, isIdentifierContinue character = true := by
    intro character hmem
    have hcontinue := List.all_eq_true.mp hrest character hmem
    simp only [canContinue, isIdentifierContinue, Bool.or_eq_true] at hcontinue ⊢
    rcases hcontinue with (hletter | hdigit) | hline
    · exact .inl (.inl (.inr hletter))
    · exact .inl (.inr hdigit)
    · exact .inl (.inl (.inl hline))
  have htake := @List.takeWhile_append_of_pos _ _ rest [] hothers
  have hdrop := @List.dropWhile_append_of_pos _ _ rest [] hothers
  rw [List.append_nil] at htake hdrop
  rw [splitName?, if_pos hfirst, htake, hdrop]
  simp

theorem literalMarks_word {text : List Char}
    (htext : ∀ character ∈ text, canContinue character = true) :
    literalMarks.any (startsWith · text) = false := by
  have hquote : canContinue '"' = false := by decide
  have hsingle : canContinue '\'' = false := by decide
  have hhash : canContinue '#' = false := by decide
  have hmarks : ∀ mark ∈ literalMarks, ∃ character ∈ mark, canContinue character = false := by
    simp [literalMarks, hquote, hsingle, hhash]
  rw [List.any_eq_false]
  intro mark hmark hstarts
  obtain ⟨character, hmem, hother⟩ := hmarks mark hmark
  have hstart : mark <+: text := List.isPrefixOf_iff_prefix.mp hstarts
  rw [htext character (hstart.subset hmem)] at hother
  cases hother

theorem splitPlainIdentifier?_word {first : Char} {rest : List Char}
    (hstart : canStart first = true) (hrest : rest.all canContinue = true) :
    splitPlainIdentifier? (first :: rest) = some (first :: rest, []) := by
  have hall : ∀ character ∈ first :: rest, canContinue character = true :=
    List.forall_mem_cons.mpr ⟨canContinue_of_canStart hstart, List.all_eq_true.mp hrest⟩
  rw [splitPlainIdentifier?, literalMarks_word hall, if_neg Bool.false_ne_true]
  unfold splitIdentifier?
  split
  next heq =>
    have hhash := hall '#' (heq ▸ by simp)
    exact absurd hhash (by decide)
  next => exact splitName?_word hstart hrest

theorem splitPlainIdentifier?_raw {first : Char} {rest : List Char}
    (hstart : canStart first = true) (hrest : rest.all canContinue = true)
    (hraw : cannotBeRaw (first :: rest) = false) :
    splitPlainIdentifier? ('r' :: '#' :: first :: rest) =
      some ('r' :: '#' :: first :: rest, []) := by
  have hquote : first ≠ '"' := (startsOnlyName_of_canStart hstart).ne (by decide)
  have hhash : first ≠ '#' := (startsOnlyName_of_canStart hstart).ne (by decide)
  have hmarks : literalMarks.any (startsWith · ('r' :: '#' :: first :: rest)) = false := by
    simp [literalMarks, startsWith, List.isPrefixOf, hquote.symm, hhash.symm]
  rw [splitPlainIdentifier?, hmarks, if_neg Bool.false_ne_true, splitIdentifier?,
    splitName?_word hstart hrest]
  simp only [hraw, Bool.false_eq_true, if_false]

end Lexeme

/-- The words that name nothing are the module's keywords without `gen`, and the reserved names. -/
theorem Token.mem_keywords {text : String} :
    text ∈ Token.keywords ↔ (text ∈ rawKeywords ∧ text ≠ "gen") ∨ text ∈ reserved := by
  constructor
  · have hkeywords : ∀ keyword ∈ Token.keywords,
        (keyword ∈ rawKeywords ∧ keyword ≠ "gen") ∨ keyword ∈ reserved := by decide +kernel
    exact hkeywords text
  · have hraw : ∀ keyword ∈ rawKeywords, keyword ≠ "gen" → keyword ∈ Token.keywords := by
      decide +kernel
    have hreserved : ∀ keyword ∈ reserved, keyword ∈ Token.keywords := by decide +kernel
    rintro (⟨hmem, hother⟩ | hmem)
    · exact hraw text hmem hother
    · exact hreserved text hmem

theorem Lexeme.cannotBeRaw_iff {name : String} :
    cannotBeRaw name.toList = true ↔ name ∈ reserved := by
  have hline : name.toList = ['_'] ↔ name = "_" := by
    rw [← String.toList_inj]
    rfl
  simp only [cannotBeRaw, Bool.or_eq_true, beq_iff_eq, hline, String.toList_inj, reserved,
    List.mem_cons, List.not_mem_nil, or_false]
  constructor
  · rintro ((((h | h) | h) | h) | h) <;> simp [h]
  · rintro (h | h | h | h | h) <;> simp [h]

namespace Identifier

/-- What an identifier is made of: the name, or the name behind the raw mark. A text that is no
name, or a name that has no raw form, is not taken. -/
def ofName? (isRaw : Bool) (name : String) : Option Identifier :=
  if splitName? name.toList = some (name.toList, []) ∧ ¬ (isRaw ∧ cannotBeRaw name.toList) then
    some ⟨if isRaw then "r#" ++ name else name⟩
  else none

/-- The text is read as the identifier and as nothing else, and it is a name wherever it stands. -/
structure IsLegal (identifier : Identifier) : Prop where
  lexed : Code.ofText? identifier.text.toList = some [identifier.token]
  accepted : ∀ rest, Parser.name (identifier.token :: rest) = .ok (identifier.text, rest)
  noKeyword : identifier.text ∉ Token.keywords

/-- The name is refused, or what comes of it is made of what it may be made of. -/
inductive Answers (isRaw : Bool) (name : String) : Except Failure Identifier → Prop
  | refused (fault : IdentifierFault) :
      Answers isRaw name (.error (.invalidIdentifier name fault))
  | made (identifier : Identifier) (isTaken : ofName? isRaw name = some identifier) :
      Answers isRaw name (.ok identifier)

theorem accepted_of_noKeyword {identifier : Identifier}
    (hkeyword : identifier.text ∉ Token.keywords) (rest : Code) :
    Parser.name (identifier.token :: rest) = .ok (identifier.text, rest) := by
  have hname : Token.isName identifier.text = true := by simpa [Token.isName] using hkeyword
  have hparse : Parser.name (identifier.token :: rest) =
      (if Token.isName identifier.text then
        (do set rest; return identifier.text : Parser String)
      else Parser.refuse ("expected identifier, found keyword `" ++ identifier.text ++ "`"))
        (identifier.token :: rest) := rfl
  rw [hparse, if_pos hname]
  rfl

theorem isLegal_plain {name : String} (hfault : fault? name = none)
    (hkeyword : name ∉ rawKeywords) : IsLegal ⟨name⟩ := by
  obtain ⟨hword, hreserved⟩ := fault?_eq_none.mp hfault
  obtain ⟨first, rest, hletters, hstart, hrest⟩ := id hword
  have hcharacters := hword.canContinue
  rw [hletters] at hcharacters
  have hfree : name ∉ Token.keywords := by
    rw [Token.mem_keywords]
    rintro (⟨hmem, -⟩ | hmem)
    · exact hkeyword hmem
    · exact hreserved hmem
  refine ⟨?_, accepted_of_noKeyword hfree, hfree⟩
  have hread := Code.ofText?_identifier (startsOnlyName_of_canStart hstart)
    (fun hmem => absurd (hcharacters _ hmem) (by decide))
    (fun hmem => absurd (hcharacters _ hmem) (by decide))
    (splitPlainIdentifier?_word hstart hrest)
  rwa [← hletters, String.ofList_toList] at hread

theorem isLegal_raw {name : String} (hfault : fault? name = none) : IsLegal ⟨"r#" ++ name⟩ := by
  obtain ⟨hword, hreserved⟩ := fault?_eq_none.mp hfault
  obtain ⟨first, rest, hletters, hstart, hrest⟩ := id hword
  have hcharacters := hword.canContinue
  rw [hletters] at hcharacters
  have hraw : cannotBeRaw (first :: rest) = false := by
    rw [← hletters, ← Bool.not_eq_true, cannotBeRaw_iff]
    exact hreserved
  have htext : ("r#" ++ name).toList = 'r' :: '#' :: first :: rest := by
    rw [String.toList_append, hletters]
    rfl
  have hfree : "r#" ++ name ∉ Token.keywords := by
    have hkeywords : ∀ keyword ∈ Token.keywords, '#' ∉ keyword.toList := by decide +kernel
    exact fun hmem => hkeywords _ hmem (by simp [htext])
  refine ⟨?_, accepted_of_noKeyword hfree, hfree⟩
  have hquote : ∀ mark, canContinue mark = false → mark ≠ '#' →
      mark ∉ 'r' :: '#' :: first :: rest := by
    intro mark hother hhash hmem
    rcases List.mem_cons.mp hmem with rfl | hmem
    · exact absurd hother (by decide)
    · rcases List.mem_cons.mp hmem with rfl | hmem
      · exact hhash rfl
      · rw [hcharacters mark hmem] at hother
        cases hother
  have hread := Code.ofText?_identifier (startsOnlyName_of_canStart (by decide))
    (hquote '"' (by decide) (by decide)) (hquote '\'' (by decide) (by decide))
    (splitPlainIdentifier?_raw hstart hrest hraw)
  rwa [← htext, String.ofList_toList] at hread

theorem ofName?_of_fault {name : String} (hfault : fault? name = none) (isRaw : Bool) :
    ofName? isRaw name = some ⟨if isRaw then "r#" ++ name else name⟩ := by
  obtain ⟨⟨first, rest, hletters, hstart, hrest⟩, hreserved⟩ := fault?_eq_none.mp hfault
  refine if_pos ⟨?_, fun hraw => hreserved (cannotBeRaw_iff.mp hraw.2)⟩
  rw [hletters]
  exact splitName?_word hstart hrest

theorem answers_field (name : String) : Answers (isKeyword name) name (field name) := by
  cases hfault : fault? name with
  | some fault =>
      have hfield : field name = .error (.invalidIdentifier name fault) := by
        simp only [field, validate, hfault]
        rfl
      exact hfield ▸ .refused fault
  | none =>
      rw [field_eq_ok.mpr ⟨hfault, rfl⟩]
      exact .made _ (ofName?_of_fault hfault _)

theorem answers_type (name : String) : Answers false name (type name) := by
  cases hfault : fault? name with
  | some fault =>
      have htype : type name = .error (.invalidIdentifier name fault) := by
        simp only [type, validate, hfault]
        rfl
      exact htype ▸ .refused fault
  | none =>
      by_cases hkeyword : isKeyword name
      · have htype : type name = .error (.invalidIdentifier name .keywordType) := by
          simp only [type, validate_eq_ok.mpr hfault, ok_bind, if_pos hkeyword]
          rfl
        exact htype ▸ .refused .keywordType
      · rw [type_eq_ok.mpr ⟨hfault, by simpa using hkeyword, rfl⟩]
        exact .made _ (ofName?_of_fault hfault false)

theorem isLegal_of_field {name : String} {identifier : Identifier}
    (hfield : field name = .ok identifier) : identifier.IsLegal := by
  obtain ⟨hfault, rfl⟩ := field_eq_ok.mp hfield
  split
  · exact isLegal_raw hfault
  next hkeyword => exact isLegal_plain hfault (by simpa [isKeyword] using hkeyword)

theorem isLegal_of_type {name : String} {identifier : Identifier}
    (htype : type name = .ok identifier) : identifier.IsLegal := by
  obtain ⟨hfault, hkeyword, rfl⟩ := type_eq_ok.mp htype
  exact isLegal_plain hfault (by simpa [isKeyword] using hkeyword)

end Identifier

end ProviderForge

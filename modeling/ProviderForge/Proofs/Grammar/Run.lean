import ProviderForge.Grammar.File
import ProviderForge.Proofs.Result

namespace ProviderForge

open Result

namespace Code

variable {character : Char} {more : List Char} {text : String} {delimiter : Delimiter}
  {content code : Code} {spacing : Spacing}

@[simp] theorem atMark_nil : atMark (character :: more) [] = false := by
  cases more <;> rfl

@[simp] theorem atMark_ident : atMark (character :: more) (.ident text :: code) = false := by
  cases more <;> rfl

@[simp] theorem atMark_literal : atMark (character :: more) (.literal text :: code) = false := by
  cases more <;> rfl

@[simp] theorem atMark_group :
    atMark (character :: more) (.group delimiter content :: code) = false := by
  cases more <;> rfl

@[simp] theorem atMark_punct {found : Char} :
    atMark [character] (.punct found spacing :: code) = (character == found) := by
  simp [atMark]

@[simp] theorem atMark_alone {found other : Char} :
    atMark (character :: other :: more) (.punct found .alone :: code) = false := by
  simp [atMark]

@[simp] theorem atMark_joint {found other : Char} :
    atMark (character :: other :: more) (.punct found .joint :: code) =
      (character == found && atMark (other :: more) code) := by
  simp [atMark]

variable {token : Token} {word : String} {words : List String}

@[simp] theorem atWord_nil : atWord word [] = false := rfl

@[simp] theorem atWord_ident : atWord word (.ident text :: code) = (text == word) := rfl

@[simp] theorem atWord_punct : atWord word (.punct character spacing :: code) = false := rfl

@[simp] theorem atWord_literal : atWord word (.literal text :: code) = false := rfl

@[simp] theorem atWord_group : atWord word (.group delimiter content :: code) = false := rfl

@[simp] theorem atAnyWord_nil : atAnyWord [] = false := rfl

@[simp] theorem atAnyWord_ident : atAnyWord (.ident text :: code) = true := rfl

@[simp] theorem atAnyWord_punct : atAnyWord (.punct character spacing :: code) = false := rfl

@[simp] theorem atAnyWord_literal : atAnyWord (.literal text :: code) = false := rfl

@[simp] theorem atAnyWord_group : atAnyWord (.group delimiter content :: code) = false := rfl

@[simp] theorem atName_nil : atName [] = false := rfl

@[simp] theorem atName_ident : atName (.ident text :: code) = Token.isName text := rfl

@[simp] theorem atName_punct : atName (.punct character spacing :: code) = false := rfl

@[simp] theorem atName_literal : atName (.literal text :: code) = false := rfl

@[simp] theorem atName_group : atName (.group delimiter content :: code) = false := rfl

@[simp] theorem atOneOf_nil : atOneOf words [] = false := rfl

@[simp] theorem atOneOf_ident : atOneOf words (.ident text :: code) = words.contains text := rfl

@[simp] theorem atOneOf_punct : atOneOf words (.punct character spacing :: code) = false := rfl

@[simp] theorem atOneOf_literal : atOneOf words (.literal text :: code) = false := rfl

@[simp] theorem atOneOf_group : atOneOf words (.group delimiter content :: code) = false := rfl

@[simp] theorem atGroup_nil : atGroup delimiter [] = false := rfl

@[simp] theorem atGroup_ident : atGroup delimiter (.ident text :: code) = false := rfl

@[simp] theorem atGroup_punct : atGroup delimiter (.punct character spacing :: code) = false := rfl

@[simp] theorem atGroup_literal : atGroup delimiter (.literal text :: code) = false := rfl

@[simp] theorem atGroup_group {found : Delimiter} :
    atGroup delimiter (.group found content :: code) = (found == delimiter) := rfl

@[simp] theorem atLiteral_nil : atLiteral [] = false := rfl

@[simp] theorem atLiteral_ident :
    atLiteral (.ident text :: code) = (text == "true" || text == "false") := rfl

@[simp] theorem atLiteral_literal : atLiteral (.literal text :: code) = true := rfl

@[simp] theorem atLiteral_group : atLiteral (.group delimiter content :: code) = false := rfl

@[simp] theorem next_nil : next [] = [] := rfl

@[simp] theorem next_ident : next (.ident text :: code) = code := rfl

@[simp] theorem next_literal : next (.literal text :: code) = code := rfl

@[simp] theorem next_group : next (.group delimiter content :: code) = code := rfl

@[simp] theorem next_punct (hother : character ≠ '\'') :
    next (.punct character spacing :: code) = code := by
  unfold next
  split
  · next heq =>
      simp only [List.cons.injEq, Token.punct.injEq] at heq
      exact absurd heq.1.1 hother
  · next heq => exact (List.cons.inj heq).2.symm
  · next heq => simp at heq

@[simp] theorem atLifetime_nil : atLifetime [] = false := rfl

@[simp] theorem atLifetime_ident : atLifetime (.ident text :: code) = false := rfl

@[simp] theorem atLifetime_literal : atLifetime (.literal text :: code) = false := rfl

@[simp] theorem atLifetime_group : atLifetime (.group delimiter content :: code) = false := rfl

@[simp] theorem atLifetime_punct (hother : character ≠ '\'') :
    atLifetime (.punct character spacing :: code) = false := by
  unfold atLifetime
  split
  · next heq =>
      simp only [List.cons.injEq, Token.punct.injEq] at heq
      exact absurd heq.1.1 hother
  · rfl

@[simp] theorem atLiteral_punct (hother : character ≠ '-') :
    atLiteral (.punct character spacing :: code) = false := by
  unfold atLiteral
  split
  · next heq => simp at heq
  · next heq => simp at heq
  · next heq =>
      simp only [List.cons.injEq, Token.punct.injEq] at heq
      exact absurd heq.1.1 hother
  · rfl

@[simp] theorem atPathStart_nil : atPathStart [] = false := rfl

@[simp] theorem atPathStart_cons : atPathStart (token :: code) =
    (atName (token :: code) || atOneOf ["super", "self", "Self", "crate"] (token :: code)) := rfl

@[simp] theorem atPoint_cons : atPoint (token :: code) =
    (atMark ['.'] (token :: code) && !atMark ['.', '.'] (token :: code)) := rfl

@[simp] theorem atColon_cons : atColon (token :: code) =
    (atMark [':'] (token :: code) && !atMark [':', ':'] (token :: code)) := rfl

@[simp] theorem atBang_cons : atBang (token :: code) =
    (atMark ['!'] (token :: code) && !atMark ['!', '='] (token :: code)) := rfl

@[simp] theorem atBar_cons : atBar (token :: code) =
    (atMark ['|'] (token :: code) && !atMark ['|', '|'] (token :: code) &&
      !atMark ['|', '='] (token :: code)) := rfl

@[simp] theorem atPoint_nil : atPoint [] = false := rfl

@[simp] theorem atColon_nil : atColon [] = false := rfl

@[simp] theorem atBang_nil : atBang [] = false := rfl

@[simp] theorem atBar_nil : atBar [] = false := rfl

end Code

theorem Token.ne_of_isName {text : String} (hname : Token.isName text = true) :
    ∀ keyword ∈ Token.keywords, ¬ text = keyword := by
  rintro keyword hmem rfl
  simp [Token.isName, hmem] at hname

namespace Parser

variable {α β : Type}

@[simp] theorem bind_run (first : Parser α) (next : α → Parser β) (code : Code) :
    (first >>= next) code = first code >>= fun read => next read.1 read.2 := rfl

@[simp] theorem pure_run (value : α) (code : Code) :
    (pure value : Parser α) code = .ok (value, code) := rfl

@[simp] theorem map_run (change : α → β) (parser : Parser α) (code : Code) :
    (change <$> parser) code = parser code >>= fun read => .ok (change read.1, read.2) := rfl

@[simp] theorem get_run (code : Code) : (get : Parser Code) code = .ok (code, code) := rfl

@[simp] theorem set_run (later code : Code) :
    (set later : Parser PUnit) code = .ok (⟨⟩, later) := rfl

@[simp] theorem ite_run {condition : Prop} [Decidable condition] (first second : Parser α)
    (code : Code) :
    (if condition then first else second) code = if condition then first code else second code := by
  split <;> rfl

@[simp] theorem discard_run (parser : Parser α) (code : Code) :
    (discard parser : Parser PUnit) code = parser code >>= fun read => .ok (⟨⟩, read.2) := by
  cases h : parser code <;> simp [Functor.discard, Functor.mapConst, StateT.map, h]

@[simp] theorem refuse_run (reason : String) (code : Code) :
    (refuse reason : Parser α) code = .error (.refused reason) := rfl

@[simp] theorem looksAt_run (condition : Code → Bool) (code : Code) :
    looksAt condition code = .ok (condition code, code) := rfl

@[simp] theorem isAtEnd_run (code : Code) : isAtEnd code = .ok (code.isEmpty, code) := rfl

@[simp] theorem expect_run (choices : List String) (code : Code) :
    (expect choices : Parser α) code = .error (.expected choices code.isEmpty) := rfl

@[simp] theorem skip_run (count : Nat) (code : Code) :
    skip count code = .ok ((), code.drop count) := rfl

@[simp] theorem bounded_run (parser : Nat → Parser α) (code : Code) :
    bounded parser code = parser (code.length + 1) code := rfl

@[simp] theorem accepts_run (characters : List Char) (code : Code) :
    accepts characters code =
      .ok (if code.atMark characters then (true, code.drop characters.length)
        else (false, code)) := by
  simp only [accepts, bind_run, looksAt_run, ok_bind, ite_run]
  split <;> rfl

@[simp] theorem acceptsWord_run (text : String) (code : Code) :
    acceptsWord text code =
      .ok (if code.atWord text then (true, code.drop 1) else (false, code)) := by
  simp only [acceptsWord, bind_run, looksAt_run, ok_bind, ite_run]
  split <;> rfl

@[simp] theorem optionalWord_run (text : String) (code : Code) :
    optionalWord text code =
      .ok (if code.atWord text then (text ++ " ", code.drop 1) else ("", code)) := by
  simp only [optionalWord, bind_run, acceptsWord_run, ok_bind]
  split <;> rfl

@[simp] theorem mark_run {characters : List Char} {code : Code}
    (hmark : code.atMark characters = true) :
    mark characters code = .ok ((), code.drop characters.length) := by
  simp [mark, hmark]

@[simp] theorem word_run (text : String) (code : Code) :
    word text (.ident text :: code) = .ok ((), code) := by
  simp [word]

@[simp] theorem anyWord_run (text : String) (code : Code) :
    anyWord (.ident text :: code) = .ok (text, code) := rfl

@[simp] theorem name_run {text : String} (hname : Token.isName text = true) (code : Code) :
    name (.ident text :: code) = .ok (text, code) := by
  simp [name, hname]

@[simp] theorem group_run (delimiter : Delimiter) (content code : Code) :
    group delimiter (.group delimiter content :: code) = .ok (content, code) := by
  simp [group]

@[simp] theorem anyGroup_run (delimiter : Delimiter) (content code : Code) :
    anyGroup (.group delimiter content :: code) = .ok ((delimiter, content), code) := rfl

@[simp] theorem within_run {delimiter : Delimiter} {parser : Parser α} {content code : Code}
    {value : α} (hcontent : parser content = .ok (value, [])) :
    within delimiter parser (.group delimiter content :: code) = .ok (value, code) := by
  simp only [within, bind_run, group_run, ok_bind, whole, hcontent]
  rfl

@[simp] theorem onlyAt_run (condition : Code → Bool) (parser : Parser α) (code : Code) :
    onlyAt condition parser code =
      if condition code then parser code >>= fun read => .ok (some read.1, read.2)
      else .ok (none, code) := by
  simp only [onlyAt, bind_run, looksAt_run, ok_bind, ite_run]
  split <;> rfl

theorem many_none {continues : Code → Bool} {parser : Parser α} {code : Code}
    (hstop : continues code = false) : many continues parser code = .ok ([], code) := by
  simp [many, repeated, hstop]

end Parser

namespace Grammar

open ProviderForge.Parser

theorem outerAttributes_none {rules : Reader} {code : Code} (hmark : code.atMark ['#'] = false) :
    outerAttributes rules code = .ok ([], code) :=
  many_none hmark

theorem innerAttributes_none {rules : Reader} {code : Code} (hmark : code.atMark ['#'] = false) :
    innerAttributes rules code = .ok ([], code) :=
  many_none (by simp [hmark])

@[simp] theorem withAttributes_nil (node : Syntax) : Syntax.withAttributes [] node = node := rfl

@[simp] theorem read_succ (depth : Nat) (rule : Rule) :
    read (depth + 1) rule = step (read depth) rule := rfl

end Grammar

end ProviderForge

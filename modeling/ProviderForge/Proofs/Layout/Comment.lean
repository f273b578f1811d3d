import ProviderForge.Layout.Comment
import ProviderForge.Proofs.Layout.Lines
import ProviderForge.Proofs.Token.Lexer

namespace ProviderForge

open Layout Lexeme

namespace Lexeme

def withoutFinalReturn : List Char → List Char
  | [] => []
  | ['\r'] => []
  | character :: rest => character :: withoutFinalReturn rest

theorem splitLine_line {line : List Char} (hline : '\n' ∉ line) (rest : List Char) :
    splitLine (line ++ '\n' :: rest) = (withoutFinalReturn line, '\n' :: rest) := by
  fun_induction withoutFinalReturn line with
  | case1 => rfl
  | case2 => rfl
  | case3 character line hlast ih =>
      rw [List.mem_cons, not_or] at hline
      have hother : ∀ text, character = '\r' → line ++ '\n' :: rest = '\n' :: text → False := by
        intro text hreturn htext
        cases line with
        | nil => exact hlast hreturn rfl
        | cons next line => simp_all
      rw [List.cons_append, splitLine, ih hline.2]
      · exact fun hbreak => hline.1 hbreak.symm
      · exact hother

theorem splitBlock_balanced {depth : Nat} {block : List Char}
    (hbalanced : isBalanced depth block = true) (hlast : block.getLast? ≠ some '/')
    (rest : List Char) : splitBlock depth (block ++ '*' :: '/' :: rest) = some (block, rest) := by
  fun_induction isBalanced depth block with
  | case1 depth block ih =>
      have hblock : block.getLast? ≠ some '/' := by
        cases block with
        | nil => simp
        | cons first block => simpa using hlast
      simp [splitBlock, ih hbalanced hblock]
  | case2 block => simp at hbalanced
  | case3 block depth ih =>
      have hblock : block.getLast? ≠ some '/' := by
        cases block with
        | nil => simp
        | cons first block => simpa using hlast
      simp [splitBlock, ih hbalanced hblock]
  | case4 depth character block hopen hclose ih =>
      have hblock : block.getLast? ≠ some '/' := by
        cases block with
        | nil => simp
        | cons first block => simpa using hlast
      rw [List.cons_append, splitBlock, ih hbalanced hblock]
      · rfl
      · intro text hslash htext
        cases block with
        | nil => simp [hslash] at hlast
        | cons next block => exact hopen block hslash (by simp_all)
      · intro text hstar htext
        cases block with
        | nil => simp at htext
        | cons next block => exact hclose block hstar (by simp_all)
  | case5 depth =>
      obtain rfl : depth = 0 := by simpa using hbalanced
      simp [splitBlock]

end Lexeme

namespace Layout

/-- What stands in front of a character that is no comment mark is balanced alike with whatever is
balanced alike behind it. -/
theorem isBalanced_append {left right : List Char}
    (hleft : left.head? ≠ some '/' ∧ left.head? ≠ some '*')
    (hright : right.head? ≠ some '/' ∧ right.head? ≠ some '*')
    (hsame : ∀ depth, isBalanced depth left = isBalanced depth right) (front : List Char)
    (depth : Nat) : isBalanced depth (front ++ left) = isBalanced depth (front ++ right) := by
  fun_induction isBalanced depth front with
  | case1 depth front ih => simpa [isBalanced] using ih
  | case2 front => simp [isBalanced]
  | case3 front depth ih => simpa [isBalanced] using ih
  | case4 depth character front hopen hclose ih =>
      have hskip : ∀ behind : List Char, behind.head? ≠ some '/' ∧ behind.head? ≠ some '*' →
          isBalanced depth (character :: front ++ behind) = isBalanced depth (front ++ behind) := by
        intro behind hbehind
        rw [List.cons_append, isBalanced]
        · intro text hslash htext
          cases front with
          | nil => simp_all
          | cons next front => exact hopen front hslash (by simp_all)
        · intro text hstar htext
          cases front with
          | nil => simp_all
          | cons next front => exact hclose front hstar (by simp_all)
      rw [hskip left hleft, hskip right hright, ih]
  | case5 depth => exact hsame depth

theorem isBalanced_blanks (blanks text : List Char) (hblanks : ∀ blank ∈ blanks, blank = ' ')
    (depth : Nat) : isBalanced depth (blanks ++ text) = isBalanced depth text := by
  induction blanks with
  | nil => rfl
  | cons blank blanks ih =>
      obtain ⟨rfl, hothers⟩ := List.forall_mem_cons.mp hblanks
      rw [List.cons_append, isBalanced, ih hothers]
      all_goals simp

theorem reverse_eq_dropped (line : List Char) :
    ∃ blanks, line.reverse = (line.dropWhile (· == ' ')).reverse ++ blanks ∧
      ∀ blank ∈ blanks, blank = ' ' := by
  refine ⟨(line.takeWhile (· == ' ')).reverse, ?_, ?_⟩
  · rw [← List.reverse_append, List.takeWhile_append_dropWhile]
  · intro blank hmem
    simpa using List.all_eq_true.mp List.all_takeWhile blank (List.mem_reverse.mp hmem)

theorem isBalanced_go (line text : List Char) (depth : Nat) :
    isBalanced depth (withoutInnerSpaces.go line text) =
      isBalanced depth (line.reverse ++ text) := by
  induction text generalizing line depth with
  | nil => simp [withoutInnerSpaces.go]
  | cons character text ih =>
      by_cases hbreak : character = '\n'
      · subst hbreak
        obtain ⟨blanks, hline, hblanks⟩ := reverse_eq_dropped line
        rw [withoutInnerSpaces.go, hline, List.append_assoc]
        refine isBalanced_append (by simp) ?_ (fun depth => ?_) _ depth
        · cases blanks with
          | nil => simp
          | cons blank blanks => simp [hblanks blank List.mem_cons_self]
        · have hskip : ∀ behind, isBalanced depth ('\n' :: behind) = isBalanced depth behind := by
            intro behind
            rw [isBalanced]
            all_goals simp
          rw [isBalanced_blanks blanks _ hblanks, hskip, hskip]
          simpa using ih [] depth
      · rw [withoutInnerSpaces.go, ih, List.reverse_cons, List.append_assoc]
        · rfl
        · exact hbreak

theorem getLast?_go (line text : List Char) :
    (withoutInnerSpaces.go line text).getLast? = (line.reverse ++ text).getLast? := by
  induction text generalizing line with
  | nil => simp [withoutInnerSpaces.go]
  | cons character text ih =>
      by_cases hbreak : character = '\n'
      · subst hbreak
        have hrest := ih []
        rw [List.reverse_nil, List.nil_append] at hrest
        rw [withoutInnerSpaces.go, List.getLast?_append, List.getLast?_append, List.getLast?_cons,
          List.getLast?_cons, hrest]
        simp
      · rw [withoutInnerSpaces.go, ih, List.reverse_cons, List.append_assoc]
        · rfl
        · exact hbreak

/-- The first character stays unless nothing but spaces stands before the first line end. -/
theorem head?_go (line text : List Char) :
    (withoutInnerSpaces.go line text).head? = (line.reverse ++ text).head? ∨
      (withoutInnerSpaces.go line text).head? = some '\n' := by
  induction text generalizing line with
  | nil => simp [withoutInnerSpaces.go]
  | cons character text ih =>
      by_cases hbreak : character = '\n'
      · subst hbreak
        obtain ⟨blanks, hline, -⟩ := reverse_eq_dropped line
        rw [withoutInnerSpaces.go, hline]
        cases (line.dropWhile (· == ' ')).reverse with
        | nil => exact .inr rfl
        | cons first others => exact .inl rfl
      · have hrest := ih (character :: line)
        rw [List.reverse_cons, List.append_assoc] at hrest
        rw [withoutInnerSpaces.go]
        · exact hrest
        · exact hbreak

theorem splitBlock_withoutInnerSpaces {text : List Char} (hfits : fitsBlock text = true)
    (rest : List Char) :
    splitBlock 0 (withoutInnerSpaces text ++ '*' :: '/' :: rest) =
      some (withoutInnerSpaces text, rest) := by
  simp only [fitsBlock, Bool.and_eq_true, bne_iff_ne] at hfits
  have hbalanced := isBalanced_go [] text 0
  have hlast := getLast?_go [] text
  rw [List.reverse_nil, List.nil_append] at hbalanced hlast
  exact splitBlock_balanced (hbalanced.trans hfits.1)
    (fun heq => hfits.2 (hlast.symm.trans heq)) rest

theorem withoutTrailingSpaces_append (text : List Char) :
    ∃ blanks, text = withoutTrailingSpaces text ++ blanks ∧ ∀ blank ∈ blanks, blank = ' ' := by
  have hdropped := reverse_eq_dropped text.reverse
  rwa [List.reverse_reverse] at hdropped

end Layout

namespace Layout

theorem addedAll_words {page : Page} (hframes : page.frames = []) (hpending : page.pending = 0)
    (words : List String) (pieces : List (Piece × Nat)) :
    ∃ behind : Page, behind.frames = [] ∧ behind.pending = 0 ∧ behind.room ≤ page.room ∧
      page.addedAll (words.map (fun text => (.text text, 0)) ++ pieces) =
        words.flatMap String.toList ++ behind.addedAll pieces := by
  induction words generalizing page with
  | nil => exact ⟨page, hframes, hpending, Int.le_refl _, rfl⟩
  | cons text words ih =>
      obtain ⟨behind, hsame, hnone, hroom, hadded⟩ := @ih (page.write text) hframes rfl
      refine ⟨behind, hsame, hnone, ?_, ?_⟩
      · exact Int.le_trans hroom (Int.sub_le_self _ (Int.natCast_nonneg _))
      · simp [Page.addedAll, Page.added, Page.add, hpending, hadded]

theorem added_break {page : Page} (hframes : page.frames = []) (size : Nat) :
    page.added (.possible { blank := size }, size) =
      if (size : Int) ≤ page.room then [] else ['\n'] := by
  by_cases hroom : (size : Int) ≤ page.room
  · simp [Page.added, Page.isUnbroken, hframes, hroom]
  · simp [Page.added, Page.isUnbroken, hframes, hroom, Page.addedAtEnd]

theorem toList_words {drawing : Drawing} {words : List String} {size : Nat}
    (hpieces : measure 0 [] [] (drawing []) =
      words.map (fun text => (.text text, 0)) ++ [(.possible { blank := size }, size)]) :
    ∃ room ≤ lineWidth, drawing.text.toList =
      words.flatMap String.toList ++ if (size : Int) ≤ room then [] else ['\n'] := by
  obtain ⟨behind, hframes, -, hroom, hadded⟩ :=
    @addedAll_words {} rfl rfl words [(.possible { blank := size }, size)]
  refine ⟨behind.room, hroom, ?_⟩
  rw [Drawing.toList_text, hpieces, hadded, Page.addedAll, added_break hframes, Page.addedAll,
    List.append_nil]

theorem toList_line {drawing : Drawing} {words : List String}
    (hpieces : measure 0 [] [] (drawing []) =
      words.map (fun text => (.text text, 0)) ++ [(.possible { blank := infinity }, infinity)]) :
    drawing.text.toList = words.flatMap String.toList ++ ['\n'] := by
  obtain ⟨room, hroom, htext⟩ := toList_words hpieces
  have hwide : ¬ ((infinity : Nat) : Int) ≤ room := fun hfits =>
    absurd (Int.le_trans hfits hroom) (by decide)
  rw [htext, if_neg hwide]

theorem toList_commentLine (mark : String) (text : List Char) :
    (commentLine mark text).text.toList = mark.toList ++ withoutTrailingSpaces text ++ ['\n'] := by
  have hline : (commentLine mark text).text.toList =
      [mark, String.ofList (withoutTrailingSpaces text)].flatMap String.toList ++ ['\n'] :=
    toList_line rfl
  simpa using hline

theorem toList_commentBlock (mark : String) (text : List Char) :
    (commentBlock mark text).text.toList =
      mark.toList ++ withoutInnerSpaces text ++ ['*', '/', '\n'] := by
  have hline : (commentBlock mark text).text.toList =
      [mark, String.ofList (withoutInnerSpaces text), "*/"].flatMap String.toList ++ ['\n'] :=
    toList_line rfl
  simpa using hline

def documented (text : List Char) : List Char :=
  if text.contains '\n' then withoutInnerSpaces text
  else withoutFinalReturn (withoutTrailingSpaces text)

theorem head?_ne_of_not_beginsWithOneOf {characters text : List Char}
    (hstart : beginsWithOneOf characters text = false) {mark : Char} (hmem : mark ∈ characters) :
    text.head? ≠ some mark := by
  cases text with
  | nil => simp
  | cons first others =>
      rintro hfirst
      obtain rfl := Option.some.inj hfirst
      simp [beginsWithOneOf, hmem] at hstart

theorem beginsWithOneOf_of_subset {characters fewer text : List Char} (hfewer : fewer ⊆ characters)
    (hstart : beginsWithOneOf characters text = false) : beginsWithOneOf fewer text = false := by
  cases text with
  | nil => rfl
  | cons first others =>
      simp only [beginsWithOneOf, List.contains_eq_mem, decide_eq_false_iff_not] at hstart ⊢
      exact fun hmem => hstart (hfewer hmem)

theorem comment?_line (isInner : Bool) {text line rest : List Char}
    (hstart : isInner = true ∨ text.head? ≠ some '/') (hline : splitLine text = (line, rest)) :
    Lexeme.comment? ('/' :: '/' :: (if isInner then '!' else '/') :: text) =
      some (.doc isInner line rest) := by
  cases isInner with
  | true => simp [Lexeme.comment?, hline]
  | false =>
      -- a fourth slash would make the comment a plain one
      have hfourth : ∀ behind, text ≠ '/' :: behind := by
        rintro behind rfl
        simp at hstart
      simp [Lexeme.comment?, hline]

theorem comment?_block (isInner : Bool) {text : List Char} (hbreak : text.contains '\n' = true)
    (hfits : fitsBlock text = true)
    (hstart : isInner = true ∨ beginsWithOneOf ['*', '/'] text = false) (rest : List Char) :
    Lexeme.comment? ('/' :: '*' :: (if isInner then '!' else '*') ::
      (withoutInnerSpaces text ++ '*' :: '/' :: rest)) =
      some (.doc isInner (documented text) rest) := by
  have hblock : splitBlock 0 (withoutInnerSpaces text ++ '*' :: '/' :: rest) =
      some (documented text, rest) := by
    rw [documented, hbreak, if_pos rfl]
    exact splitBlock_withoutInnerSpaces hfits _
  cases isInner with
  | true => simp [Lexeme.comment?, hblock]
  | false =>
      have hstart := hstart.resolve_left (by simp)
      have hhead : (withoutInnerSpaces text).head? = text.head? ∨
          (withoutInnerSpaces text).head? = some '\n' := head?_go [] text
      -- a third star would make the comment a plain one, and a slash would end it
      have hfourth : ∀ mark ∈ ['*', '/'], ∀ behind,
          withoutInnerSpaces text ++ '*' :: '/' :: rest ≠ mark :: behind := by
        intro mark hmem behind hbehind
        have hmark := head?_ne_of_not_beginsWithOneOf hstart hmem
        have hfirst := congrArg List.head? hbehind
        rw [List.head?_append] at hfirst
        obtain hhead | hhead := hhead <;> rw [hhead] at hfirst
        · cases text with
          | nil => simp at hbreak
          | cons first others => exact hmark hfirst
        · obtain rfl := Option.some.inj hfirst
          simp at hmem
      have hstar := hfourth '*' (by simp)
      have hslash := hfourth '/' (by simp)
      simp [Lexeme.comment?, hblock]

theorem not_mem_withoutTrailingSpaces {text : List Char} (hbreak : text.contains '\n' = false) :
    '\n' ∉ withoutTrailingSpaces text := by
  obtain ⟨blanks, htext, -⟩ := withoutTrailingSpaces_append text
  intro hmem
  have hin : '\n' ∈ text := htext ▸ List.mem_append_left blanks hmem
  simp [hin] at hbreak

theorem head?_withoutTrailingSpaces {text behind : List Char} {mark : Char}
    (htext : text.head? ≠ some mark)
    (hbehind : withoutTrailingSpaces text ≠ [] ∨ behind.head? ≠ some mark) :
    (withoutTrailingSpaces text ++ behind).head? ≠ some mark := by
  obtain ⟨blanks, hblanks, -⟩ := withoutTrailingSpaces_append text
  rw [hblanks] at htext
  cases hline : withoutTrailingSpaces text with
  | nil => simpa [hline] using hbehind
  | cons first others => simpa [hline] using htext

theorem comment?_documented (isInner : Bool) {text : List Char}
    (hbreak : text.contains '\n' = false)
    (hstart : isInner = true ∨ beginsWithOneOf ['/'] text = false) (rest : List Char) :
    Lexeme.comment? ('/' :: '/' :: (if isInner then '!' else '/') ::
      (withoutTrailingSpaces text ++ '\n' :: rest)) =
      some (.doc isInner (documented text) ('\n' :: rest)) := by
  apply comment?_line
  · refine hstart.imp_right fun hstart => head?_withoutTrailingSpaces ?_ (.inr (by simp))
    exact head?_ne_of_not_beginsWithOneOf hstart List.mem_cons_self
  · rw [documented, hbreak, splitLine_line (not_mem_withoutTrailingSpaces hbreak)]
    rfl

/-- A documentation comment is read as the text that it documents, unless a carriage return keeps it
from being read. -/
theorem ofText?_documentation {isInner : Bool} {text : List Char} {drawing : Drawing}
    (hdrawing : documentation? isInner text = some drawing) :
    Code.ofText? drawing.text.toList =
      if Lexeme.hasBareReturn (documented text) then none
      else some (Lexer.docTokens isInner (documented text)) := by
  unfold documentation? at hdrawing
  split at hdrawing
  next hline =>
    obtain rfl := Option.some.inj hdrawing
    simp only [Bool.and_eq_true, Bool.not_eq_true', Bool.or_eq_true] at hline
    rw [toList_commentLine,
      ← Lexer.ofText?_comment (.inl rfl) (comment?_documented isInner hline.1 hline.2 [])]
    cases isInner <;> rfl
  next hblock =>
    split at hdrawing
    next hfits =>
      obtain rfl := Option.some.inj hdrawing
      simp only [Bool.and_eq_true, Bool.not_eq_true', Bool.or_eq_true] at hfits
      have hslash : isInner = true ∨ beginsWithOneOf ['/'] text = false :=
        hfits.2.imp_right (beginsWithOneOf_of_subset (by simp))
      have hbreak : text.contains '\n' = true := by simpa [hslash] using hblock
      rw [toList_commentBlock,
        ← Lexer.ofText?_comment (.inr rfl) (comment?_block isInner hbreak hfits.1 hfits.2 ['\n'])]
      cases isInner <;> rfl
    · simp at hdrawing

theorem hasBareReturn_of_mem {line : List Char} (hbreak : '\n' ∉ line) (hreturn : '\r' ∈ line) :
    hasBareReturn line = true := by
  fun_induction hasBareReturn line <;> grind

theorem mem_of_hasBareReturn {line : List Char} (hbare : hasBareReturn line = true) :
    '\r' ∈ line := by
  fun_induction hasBareReturn line <;> grind

theorem not_mem_splitLine (text : List Char) : '\n' ∉ (splitLine text).1 := by
  fun_induction splitLine text <;> grind

/-- Only the last carriage return of a line can belong to its end. -/
theorem mem_splitLine {line : List Char} (hbreak : '\n' ∉ line)
    (hreturn : '\r' ∈ withoutFinalReturn line) (behind : List Char) :
    '\r' ∈ (splitLine (line ++ behind)).1 := by
  fun_induction withoutFinalReturn line with
  | case1 => simp at hreturn
  | case2 => simp at hreturn
  | case3 first line hlast ih =>
      rw [List.mem_cons, not_or] at hbreak
      have hother : ∀ rest, first = '\r' → line ++ behind ≠ '\n' :: rest := by
        intro rest hfirst hline
        cases line with
        | nil => exact hlast hfirst rfl
        | cons second line => simp_all
      have hsplit : splitLine (first :: (line ++ behind)) =
          (first :: (splitLine (line ++ behind)).1, (splitLine (line ++ behind)).2) := by
        rw [splitLine]
        · exact fun hfirst => hbreak.1 hfirst.symm
        · exact hother
      rw [List.cons_append, hsplit]
      exact List.mem_cons.mpr ((List.mem_cons.mp hreturn).imp_right (ih hbreak.2))

/-- The tokens that are read where the text is laid out as documentation: those of a comment, in
which a carriage return cannot be read, or where none can hold the text those of an attribute. -/
def readBack (text : List Char) : Option Code :=
  match documentation? false text with
  | some _ =>
      if Lexeme.hasBareReturn (documented text) then none
      else some (Lexer.docTokens false (documented text))
  | none => some (Lexer.docTokens false text)

/-- What the text is laid out as, without the end of the line. -/
def documentation (text : List Char) : List Char :=
  if !text.contains '\n' && !beginsWithOneOf ['/'] text then
    '/' :: '/' :: '/' :: withoutTrailingSpaces text
  else if fitsBlock text && !beginsWithOneOf ['*', '/'] text then
    '/' :: '*' :: '*' :: (withoutInnerSpaces text ++ ['*', '/'])
  else
    ['#', '[', 'd', 'o', 'c', ' ', '=', ' '] ++ (Quoted.quote (String.ofList text)).toList ++ [']']

/-- The three ways to document a text: a comment of one line, one of several lines, and an
attribute. -/
inductive Documentation (text : List Char) : Prop
  | line (hbreak : text.contains '\n' = false) (hslash : beginsWithOneOf ['/'] text = false)
      (hdrawing : documentation? false text = some (commentLine "///" text))
      (htext : documentation text = '/' :: '/' :: '/' :: withoutTrailingSpaces text)
  | block (hbreak : text.contains '\n' = true) (hfits : fitsBlock text = true)
      (hmark : beginsWithOneOf ['*', '/'] text = false)
      (hdrawing : documentation? false text = some (commentBlock "/**" text))
      (htext : documentation text = '/' :: '*' :: '*' :: (withoutInnerSpaces text ++ ['*', '/']))
  | inAttribute (hdrawing : documentation? false text = none)
      (htext : documentation text = ['#', '[', 'd', 'o', 'c', ' ', '=', ' '] ++
        (Quoted.quote (String.ofList text)).toList ++ [']'])

theorem documentation_cases (text : List Char) : Documentation text := by
  cases hline : !text.contains '\n' && !beginsWithOneOf ['/'] text with
  | true =>
      have hparts : text.contains '\n' = false ∧ beginsWithOneOf ['/'] text = false := by
        simpa only [Bool.and_eq_true, Bool.not_eq_true'] using hline
      apply Documentation.line hparts.1 hparts.2
      · simp only [documentation?, Bool.false_or, hline, if_true, Bool.false_eq_true, if_false]
      · simp only [documentation, hline, if_true]
  | false =>
      cases hblock : fitsBlock text && !beginsWithOneOf ['*', '/'] text with
      | true =>
          have hparts : fitsBlock text = true ∧ beginsWithOneOf ['*', '/'] text = false := by
            simpa only [Bool.and_eq_true, Bool.not_eq_true'] using hblock
          have hslash : beginsWithOneOf ['/'] text = false :=
            beginsWithOneOf_of_subset (by simp) hparts.2
          have hbreak : text.contains '\n' = true := by
            simpa only [hslash, Bool.not_false, Bool.and_true, Bool.not_eq_false'] using hline
          apply Documentation.block hbreak hparts.1 hparts.2
          · simp only [documentation?, Bool.false_or, hline, hblock, if_true, Bool.false_eq_true,
              if_false]
          · simp only [documentation, hline, hblock, if_true, Bool.false_eq_true, if_false]
      | false =>
          apply Documentation.inAttribute
          · simp only [documentation?, Bool.false_or, hline, hblock, Bool.false_eq_true, if_false]
          · simp only [documentation, hline, hblock, Bool.false_eq_true, if_false]

/-- A reader that comes to documentation reads its tokens, where a comment ends with the line. -/
theorem run_documentation_some {text : List Char} {tokens : Code}
    (htokens : readBack text = some tokens) {behind : List Char}
    (hends : (documentation? false text).isSome → behind.head? = some '\n') :
    ∃ steps, ∀ fuel stack taken,
      Lexer.run (fuel + steps) stack taken (documentation text ++ behind) =
        Lexer.run fuel stack (tokens.reverse ++ taken) behind := by
  cases documentation_cases text with
  | line hbreak hslash hdrawing htext =>
      simp only [readBack, hdrawing, Option.ite_none_left_eq_some, Option.some.injEq] at htokens
      obtain ⟨hread, rfl⟩ := htokens
      obtain ⟨rest, rfl⟩ := List.head?_eq_some_iff.mp (hends (by simp [hdrawing]))
      refine ⟨1, fun fuel stack taken => ?_⟩
      rw [htext]
      exact (Lexer.run_comment (.inl rfl) (comment?_documented false hbreak (.inr hslash) rest)
        fuel stack taken).trans (if_neg hread)
  | block hbreak hfits hmark hdrawing htext =>
      simp only [readBack, hdrawing, Option.ite_none_left_eq_some, Option.some.injEq] at htokens
      obtain ⟨hread, rfl⟩ := htokens
      refine ⟨1, fun fuel stack taken => ?_⟩
      rw [htext, List.cons_append, List.cons_append, List.cons_append, List.append_assoc]
      exact (Lexer.run_comment (.inr rfl) (comment?_block false hbreak hfits (.inr hmark) _)
        fuel stack taken).trans (if_neg hread)
  | inAttribute hdrawing htext =>
      simp only [readBack, hdrawing, Option.some.injEq] at htokens
      subst htokens
      refine ⟨8, fun fuel stack taken => ?_⟩
      rw [htext, List.append_assoc, List.singleton_append, Lexer.run_attribute,
        String.toList_ofList]

/-- No reader gets past documentation in which a carriage return ends no line. -/
theorem run_documentation_none {text : List Char} (hnone : readBack text = none) (fuel : Nat)
    (stack : List Lexer.OpenGroup) (taken : List Token) (behind : List Char) :
    Lexer.run fuel stack taken (documentation text ++ behind) = none := by
  cases fuel with
  | zero => rfl
  | succ fuel =>
      cases documentation_cases text with
      | line hbreak hslash hdrawing htext =>
          simp only [readBack, hdrawing, ite_eq_left_iff, reduceCtorEq, imp_false,
            Bool.not_eq_true, Bool.not_eq_false] at hnone
          rw [documented, hbreak] at hnone
          have hreturn : '\r' ∈ withoutFinalReturn (withoutTrailingSpaces text) :=
            mem_of_hasBareReturn hnone
          have hnonempty : withoutTrailingSpaces text ≠ [] := by
            intro hempty
            simp [hempty, withoutFinalReturn] at hreturn
          have hhead : (withoutTrailingSpaces text ++ behind).head? ≠ some '/' :=
            head?_withoutTrailingSpaces
              (head?_ne_of_not_beginsWithOneOf hslash List.mem_cons_self) (.inl hnonempty)
          -- the line may go on behind the text, and keeps the carriage return then too
          have hstuck := hasBareReturn_of_mem (not_mem_splitLine _)
            (mem_splitLine (not_mem_withoutTrailingSpaces hbreak) hreturn behind)
          rw [htext]
          exact (Lexer.run_comment (.inl rfl) (comment?_line false (.inr hhead) rfl)
            fuel stack taken).trans (if_pos hstuck)
      | block hbreak hfits hmark hdrawing htext =>
          simp only [readBack, hdrawing, ite_eq_left_iff, reduceCtorEq, imp_false,
            Bool.not_eq_true, Bool.not_eq_false] at hnone
          rw [htext, List.cons_append, List.cons_append, List.cons_append, List.append_assoc]
          exact (Lexer.run_comment (.inr rfl)
            (comment?_block false hbreak hfits (.inr hmark) behind)
            fuel stack taken).trans (if_pos hnone)
      | inAttribute hdrawing htext => simp [readBack, hdrawing] at hnone

end Layout

end ProviderForge

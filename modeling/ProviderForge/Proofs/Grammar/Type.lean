import ProviderForge.Proofs.Grammar.Reads

namespace ProviderForge

open Code Result

namespace Token

/-- The keywords with which no path can begin or go on. -/
def nonPathWords : List String :=
  ["as", "async", "await", "break", "const", "continue", "dyn", "else", "enum", "extern", "false",
    "fn", "for", "if", "impl", "let", "loop", "macro", "match", "mod", "move", "mut", "pub", "ref",
    "return", "static", "struct", "trait", "true", "try", "type", "unsafe", "use", "where", "while",
    "yield", "_"]

def IsPathWord (text : String) : Prop :=
  isName text = true ∨ text ∈ ["super", "self", "Self", "crate"]

theorem IsPathWord.ne {text : String} (hword : IsPathWord text) :
    ∀ keyword ∈ nonPathWords, ¬ text = keyword := by
  have hother : ∀ keyword ∈ nonPathWords,
      ¬ isName keyword = true ∧ keyword ∉ ["super", "self", "Self", "crate"] := by decide
  rintro keyword hmem rfl
  exact hword.elim (hother text hmem).1 (hother text hmem).2

theorem IsPathWord.atPathStart {text : String} (hword : IsPathWord text) (rest : Code) :
    Code.atPathStart (.ident text :: rest) = true := by
  rcases hword with hname | hspecial
  · simp [hname]
  · have hcontains : ["super", "self", "Self", "crate"].contains text = true := by
      simpa using hspecial
    simp only [Code.atPathStart, Code.atOneOf, hcontains, Bool.or_true]

end Token

namespace Grammar

open ProviderForge.Parser (many_none)

structure EndsSegment (isExpression : Bool) (rest : Code) : Prop where
  generic : isExpression = false → rest.atMark ['<'] = false
  turbofish : (rest.atMark [':', ':'] && rest.next.next.atMark ['<']) = false

/-- A segment of a path: a word, perhaps with arguments behind it. -/
structure IsSegment (isExpression : Bool) (code : Code) : Prop where
  head : ∃ text tail, code = .ident text :: tail ∧ Token.IsPathWord text
  run : ∀ depth rest, 4 * Code.size code ≤ depth + 2 → EndsSegment isExpression rest →
    ∃ name, segment (read depth) isExpression (code ++ rest) = .ok (name, rest)

theorem segment_word {rules : Reader} {isExpression : Bool} {text : String} {rest : Code}
    (hword : Token.IsPathWord text) (hrest : EndsSegment isExpression rest) :
    segment rules isExpression (.ident text :: rest) = .ok (.segment text, rest) := by
  obtain ⟨hgeneric, hturbofish⟩ := hrest
  have hplain : (!isExpression && rest.atMark ['<'] && !rest.atMark ['<', '='] &&
      !rest.atMark ['<', '<', '='] || rest.atMark [':', ':'] && rest.next.next.atMark ['<']) =
        false := by
    rw [hturbofish, Bool.or_false]
    cases isExpression
    · simp [hgeneric rfl]
    · rfl
  rcases hword with hname | hspecial
  · have hne := Token.ne_of_isName hname
    simp only [Token.keywords, List.forall_mem_cons] at hne
    simp only [List.not_mem_nil, false_imp_iff, implies_true] at hne
    simp [segment, hne, hname, -Bool.or_eq_true, -Bool.and_eq_true, hplain]
  · simp only [List.mem_cons, List.not_mem_nil, or_false] at hspecial
    rcases hspecial with rfl | rfl | rfl | rfl <;>
      simp [segment, -Bool.or_eq_true, -Bool.and_eq_true, hplain]

theorem IsSegment.word {isExpression : Bool} {text : String} (hword : Token.IsPathWord text) :
    IsSegment isExpression (word text) :=
  ⟨⟨text, [], rfl, hword⟩, fun _ _ _ hrest => ⟨.segment text, segment_word hword hrest⟩⟩

structure EndsPath (isExpression : Bool) (rest : Code) : Prop where
  generic : isExpression = false → rest.atMark ['<'] = false
  segment : rest.atMark [':', ':'] = false

theorem EndsPath.endsSegment {isExpression : Bool} {rest : Code}
    (hrest : EndsPath isExpression rest) : EndsSegment isExpression rest :=
  ⟨hrest.generic, by simp [hrest.segment]⟩

def laterSegmentsCode (later : List Code) : Code :=
  later.flatMap (colons ++ ·)

/-- Words with colons between each two, some with arguments behind them. -/
def IsPath (isExpression : Bool) (code : Code) : Prop :=
  ∃ first later, code = first ++ laterSegmentsCode later ∧ IsSegment isExpression first ∧
    ∀ segment ∈ later, IsSegment isExpression segment

theorem IsPath.single {isExpression : Bool} {code : Code}
    (hsegment : IsSegment isExpression code) : IsPath isExpression code :=
  ⟨code, [], by simp [laterSegmentsCode], hsegment, by simp⟩

theorem endsSegment_later {isExpression : Bool} {later : List Code} {rest : Code}
    (hlater : ∀ segment ∈ later, IsSegment isExpression segment)
    (hrest : EndsPath isExpression rest) :
    EndsSegment isExpression (laterSegmentsCode later ++ rest) := by
  cases later with
  | nil => exact hrest.endsSegment
  | cons segment later =>
      obtain ⟨text, tail, rfl, -⟩ := (hlater segment List.mem_cons_self).head
      constructor <;> simp [laterSegmentsCode, colons, operator]

theorem laterSegments_run {isExpression : Bool} {later : List Code}
    (hlater : ∀ segment ∈ later, IsSegment isExpression segment) {rest : Code}
    (hrest : EndsPath isExpression rest) (depth fuel : Nat)
    (hdepth : 4 * Code.size (laterSegmentsCode later) ≤ depth + 2)
    (hfuel : (laterSegmentsCode later ++ rest).length < fuel) :
    ∃ names, Parser.repeated
        (fun code => code.atMark [':', ':'] && !code.next.next.atGroup .parenthesis)
        (do Parser.mark [':', ':']; segment (read depth) isExpression) fuel
        (laterSegmentsCode later ++ rest) = .ok (names, rest) := by
  induction later generalizing fuel with
  | nil =>
      obtain ⟨fuel, rfl⟩ := Nat.exists_eq_add_one_of_ne_zero (Nat.ne_zero_of_lt hfuel)
      exact ⟨[], by simp [laterSegmentsCode, Parser.repeated, hrest.segment]⟩
  | cons first later ih =>
      obtain ⟨fuel, rfl⟩ := Nat.exists_eq_add_one_of_ne_zero (Nat.ne_zero_of_lt hfuel)
      obtain ⟨hfirst, hothers⟩ := List.forall_mem_cons.mp hlater
      have hcode : laterSegmentsCode (first :: later) ++ rest =
          .punct ':' .joint :: .punct ':' .alone ::
            (first ++ (laterSegmentsCode later ++ rest)) := by
        simp [laterSegmentsCode, colons, operator]
      have hsize : Code.size (laterSegmentsCode (first :: later)) =
          2 + (Code.size first + Code.size (laterSegmentsCode later)) := by
        simp only [laterSegmentsCode, colons, operator, List.flatMap_cons, Code.size_append,
          Code.size_cons, Code.size_nil, Token.size_punct]
        omega
      rw [hcode] at hfuel ⊢
      rw [hsize] at hdepth
      simp only [List.length_cons, List.length_append] at hfuel
      obtain ⟨name, hname⟩ := hfirst.run depth (laterSegmentsCode later ++ rest) (by omega)
        (endsSegment_later hothers hrest)
      obtain ⟨names, hnames⟩ := ih hothers fuel (by omega)
        (by simp only [List.length_append]; omega)
      obtain ⟨text, tail, rfl, -⟩ := hfirst.head
      refine ⟨name :: names, ?_⟩
      simp only [List.cons_append] at hname
      simp [Parser.repeated, hname, hnames]

theorem IsPath.head {isExpression : Bool} {code : Code} (hpath : IsPath isExpression code) :
    ∃ text tail, code = .ident text :: tail ∧ Token.IsPathWord text := by
  obtain ⟨first, later, rfl, hfirst, -⟩ := hpath
  obtain ⟨text, tail, rfl, hword⟩ := hfirst.head
  exact ⟨text, _, rfl, hword⟩

theorem IsPath.segments_run {isExpression : Bool} {code : Code} (hpath : IsPath isExpression code)
    {depth : Nat} {rest : Code} (hdepth : 4 * Code.size code ≤ depth + 2)
    (hrest : EndsPath isExpression rest) :
    ∃ names, segments (read depth) isExpression (code ++ rest) = .ok ((false, names), rest) := by
  obtain ⟨first, later, rfl, hfirst, hlater⟩ := hpath
  rw [Code.size_append] at hdepth
  obtain ⟨name, hname⟩ := hfirst.run depth (laterSegmentsCode later ++ rest) (by omega)
    (endsSegment_later hlater hrest)
  obtain ⟨names, hnames⟩ := laterSegments_run hlater hrest depth
    ((laterSegmentsCode later ++ rest).length + 1) (by omega) (Nat.lt_succ_self _)
  obtain ⟨text, tail, rfl, -⟩ := hfirst.head
  refine ⟨name :: names, ?_⟩
  simp only [List.cons_append] at hname
  rw [List.append_assoc]
  simp only [List.cons_append, segments, laterSegments, Parser.many, Parser.bind_run,
    Code.atMark_ident, ok_bind, Bool.false_eq_true, if_false, Parser.accepts_run, hname,
    Parser.bounded_run, hnames, Parser.pure_run]

theorem IsPath.run {isExpression : Bool} {code : Code} (hpath : IsPath isExpression code)
    {depth : Nat} {rest : Code} (hdepth : 4 * Code.size code ≤ depth + 2)
    (hrest : EndsPath isExpression rest) :
    ∃ names, path (read depth) isExpression (code ++ rest) = .ok (.path false names, rest) := by
  obtain ⟨names, hnames⟩ := hpath.segments_run hdepth hrest
  obtain ⟨text, tail, rfl, -⟩ := hpath.head
  refine ⟨names, ?_⟩
  simp only [List.cons_append] at hnames ⊢
  simp [path, hnames]

structure EndsType (rest : Code) : Prop where
  generic : rest.atMark ['<'] = false
  segment : rest.atMark [':', ':'] = false
  bang : rest.atBang = false
  bounds : rest.atMark ['+'] = false
  call : rest.atGroup .parenthesis = false

theorem EndsType.endsPath {rest : Code} (hrest : EndsType rest) : EndsPath false rest :=
  ⟨fun _ => hrest.generic, hrest.segment⟩

def IsType (code : Code) : Prop :=
  ∀ allowsPlus, Reads (fun depth => read depth (.type allowsPlus)) EndsType code

theorem IsPath.type_run {code : Code} (hpath : IsPath false code) {depth : Nat} {rest : Code}
    (hdepth : 4 * Code.size code ≤ depth + 2) (hrest : EndsType rest) (allowsPlus : Bool) :
    ∃ names, type (read depth) allowsPlus (code ++ rest) = .ok (.path false names, rest) := by
  obtain ⟨names, hnames⟩ := hpath.run hdepth hrest.endsPath
  obtain ⟨text, tail, rfl, hword⟩ := hpath.head
  have hstart := hword.atPathStart (tail ++ rest)
  have hne := hword.ne
  simp only [Token.nonPathWords, List.forall_mem_cons] at hne
  refine ⟨names, ?_⟩
  simp only [List.cons_append] at hnames ⊢
  simp [type, quantifier, hne, hstart, namedType, hnames, hrest.bang, hrest.bounds,
    -Code.atPathStart_cons, Syntax.withQuantifier]

theorem IsPath.isType {code : Code} (hpath : IsPath false code) : IsType code := by
  intro allowsPlus
  obtain ⟨text, tail, rfl, hword⟩ := hpath.head
  refine ⟨by simp, ?_⟩
  intro depth rest hdepth hrest
  have hpositive : 1 ≤ depth := by
    simp only [Code.size_cons, Token.size_ident] at hdepth
    omega
  obtain ⟨depth, rfl⟩ := Nat.exists_eq_add_of_le' hpositive
  obtain ⟨names, hnames⟩ := hpath.type_run (by omega : _ ≤ depth + 2) hrest allowsPlus
  exact ⟨_, hnames⟩

structure IsArgument (code : Code) : Prop where
  head : ∃ text tail, code = .ident text :: tail ∧ ¬ text = "true" ∧ ¬ text = "false"
  isType : IsType code

theorem IsPath.isArgument {code : Code} (hpath : IsPath false code) : IsArgument code := by
  obtain ⟨text, tail, hcode, hword⟩ := hpath.head
  have hne := hword.ne
  simp only [Token.nonPathWords, List.forall_mem_cons] at hne
  exact ⟨⟨text, tail, hcode, by simp [hne], by simp [hne]⟩, hpath.isType⟩

theorem endsType_greater (rest : Code) : EndsType (.punct '>' .alone :: rest) := by
  constructor <;> simp

theorem genericArgument_run {argument : Code} (hargument : IsArgument argument) {depth : Nat}
    (hdepth : 4 * Code.size argument ≤ depth) (rest : Code) :
    ∃ node, genericArgument (read depth) (argument ++ .punct '>' .alone :: rest) =
      .ok (node, .punct '>' .alone :: rest) := by
  obtain ⟨text, tail, rfl, htrue, hfalse⟩ := hargument.head
  obtain ⟨node, hnode⟩ := (hargument.isType true).run depth (.punct '>' .alone :: rest) hdepth
    (endsType_greater rest)
  refine ⟨node, ?_⟩
  simp only [List.cons_append] at hnode ⊢
  simp only [genericArgument, Parser.bind_run, Parser.get_run, ok_bind]
  simp [htrue, hfalse, hnode]
  split <;> simp

theorem genericArguments_run {argument : Code} (hargument : IsArgument argument) {depth : Nat}
    (hdepth : 4 * Code.size argument ≤ depth) (rest : Code) :
    (∃ arguments, genericArguments (read depth) (angled argument ++ rest) =
      .ok (arguments, rest)) ∧
    ∃ arguments, genericArguments (read depth) (colons ++ angled argument ++ rest) =
      .ok (arguments, rest) := by
  obtain ⟨node, hnode⟩ := genericArgument_run hargument hdepth rest
  obtain ⟨text, tail, rfl, -⟩ := hargument.head
  simp only [List.cons_append] at hnode
  constructor <;> refine ⟨[node], ?_⟩ <;>
    simp [genericArguments, angled, colons, operator, mark, Parser.list, Parser.repeatedList, hnode]

theorem IsSegment.angled {text : String} {argument : Code} (hname : Token.isName text = true)
    (hargument : IsArgument argument) :
    IsSegment false (Code.word text ++ Code.angled argument) := by
  refine ⟨⟨text, _, rfl, .inl hname⟩, ?_⟩
  intro depth rest hdepth hrest
  have hsize : 4 * Code.size argument ≤ depth := by
    simp only [Code.word, Code.angled, mark, Code.size_append, Code.size_cons, Code.size_nil,
      Token.size_ident, Token.size_punct] at hdepth
    omega
  obtain ⟨arguments, harguments⟩ := (genericArguments_run hargument hsize rest).1
  have hne := Token.ne_of_isName hname
  simp only [Token.keywords, List.forall_mem_cons] at hne
  refine ⟨.genericSegment false text arguments, ?_⟩
  simp only [Code.angled, mark, List.cons_append, List.nil_append, List.append_assoc]
    at harguments
  simp [segment, Code.word, Code.angled, mark, hname, hne, harguments]

theorem IsSegment.turbofish {text : String} {argument : Code} (hname : Token.isName text = true)
    (hargument : IsArgument argument) :
    IsSegment true (Code.word text ++ colons ++ Code.angled argument) := by
  refine ⟨⟨text, _, rfl, .inl hname⟩, ?_⟩
  intro depth rest hdepth hrest
  have hsize : 4 * Code.size argument ≤ depth := by
    simp only [Code.word, Code.angled, mark, colons, operator, Code.size_append, Code.size_cons,
      Code.size_nil, Token.size_ident, Token.size_punct] at hdepth
    omega
  obtain ⟨arguments, harguments⟩ := (genericArguments_run hargument hsize rest).2
  have hne := Token.ne_of_isName hname
  simp only [Token.keywords, List.forall_mem_cons] at hne
  refine ⟨.genericSegment true text arguments, ?_⟩
  simp only [Code.angled, mark, colons, operator, List.cons_append, List.nil_append,
    List.append_assoc] at harguments
  simp [segment, Code.word, Code.angled, mark, colons, operator, hname, hne, harguments]

/-- The code begins with a word or a group, and not with a word that belongs to a reference. -/
def IsReferable (code : Code) : Prop :=
  (∃ text tail, code = .ident text :: tail ∧ ¬ text = "mut" ∧ ¬ text = "raw") ∨
    ∃ delimiter content tail, code = .group delimiter content :: tail

theorem IsType.reference {code : Code} (htype : IsType code) (hhead : IsReferable code) :
    IsType (reference code) := by
  intro allowsPlus
  refine ⟨by simp [Code.reference, mark], ?_⟩
  intro depth rest hdepth hrest
  simp only [Code.reference, mark, Code.size_append, Code.size_cons, Token.size_punct,
    Code.size_nil] at hdepth
  obtain ⟨depth, rfl⟩ := Nat.exists_eq_add_of_le' (by omega : 1 ≤ depth)
  obtain ⟨node, hnode⟩ := (htype false).run depth rest (by omega) hrest
  refine ⟨.prefixed "&" node, ?_⟩
  rcases hhead with ⟨text, tail, rfl, hmutable, -⟩ | ⟨delimiter, content, tail, rfl⟩
  all_goals
    simp only [List.cons_append] at hnode
    simp [Code.reference, mark, step, type, quantifier, hnode]
  simp [hmutable, hnode]

theorem IsType.mutableReference {code : Code} (htype : IsType code) :
    IsType (mutableReference code) := by
  intro allowsPlus
  refine ⟨by simp [Code.mutableReference, mark], ?_⟩
  intro depth rest hdepth hrest
  simp only [Code.mutableReference, Code.word, mark, Code.size_append, Code.size_cons,
    Token.size_punct, Token.size_ident, Code.size_nil] at hdepth
  obtain ⟨depth, rfl⟩ := Nat.exists_eq_add_of_le' (by omega : 1 ≤ depth)
  obtain ⟨node, hnode⟩ := (htype false).run depth rest (by omega) hrest
  refine ⟨.prefixed "&mut " node, ?_⟩
  simp [Code.mutableReference, Code.word, mark, step, type, quantifier, hnode]

theorem IsType.brackets {code : Code} (htype : IsType code) : IsType (brackets code) := by
  intro allowsPlus
  refine ⟨by simp [Code.brackets], ?_⟩
  intro depth rest hdepth hrest
  simp only [Code.brackets, Code.size_cons, Token.size_group, Code.size_nil] at hdepth
  obtain ⟨depth, rfl⟩ := Nat.exists_eq_add_of_le' (by omega : 1 ≤ depth)
  obtain ⟨node, hnode⟩ := (htype true).whole ⟨rfl, rfl, rfl, rfl, rfl⟩ (by omega : _ ≤ depth)
  refine ⟨.slice node, ?_⟩
  simp [Code.brackets, step, type, quantifier, hnode]

theorem IsType.function {code : Code} (htype : IsType code) :
    IsType (call (word "fn") [] ++ arrow ++ code) := by
  intro allowsPlus
  refine ⟨by simp [call, word], ?_⟩
  intro depth rest hdepth hrest
  simp only [call, word, parens, arrow, operator, Code.size_append, Code.size_cons,
    Token.size_punct, Token.size_ident, Token.size_group, Code.size_nil] at hdepth
  obtain ⟨depth, rfl⟩ := Nat.exists_eq_add_of_le' (by omega : 1 ≤ depth)
  obtain ⟨node, hnode⟩ := (htype false).run depth rest (by omega) hrest
  refine ⟨.functionType "" [] none (some node), ?_⟩
  simp [call, word, parens, arrow, operator, step, type, quantifier, functionType, convention,
    typeArguments, output, hnode, Syntax.withQuantifier]

theorem IsPath.traitBounds_run {code : Code} (hpath : IsPath false code) {depth : Nat}
    {rest : Code} (hdepth : 4 * Code.size code ≤ depth + 2) (hrest : EndsType rest)
    (allowsPlus : Bool) :
    ∃ names, traitBounds (read (depth + 1)) allowsPlus false (code ++ rest) =
      .ok ([.path false names], rest) := by
  obtain ⟨names, hnames⟩ := hpath.segments_run hdepth hrest.endsPath
  obtain ⟨text, tail, rfl, hword⟩ := hpath.head
  have hne := hword.ne
  simp only [Token.nonPathWords, List.forall_mem_cons] at hne
  have hcallable : atCallable rest = false := by
    simp [atCallable, hrest.call, hrest.segment]
  refine ⟨names, ?_⟩
  simp only [List.cons_append] at hnames ⊢
  simp [step, traitBounds, bound, traitBound, traitPath, quantifier, hnames, hne, hcallable,
    isTrait, hrest.bounds, Syntax.withQuantifier]

theorem IsType.traitObject {code : Code} (hpath : IsPath false code) :
    IsType (word "dyn" ++ code) := by
  intro allowsPlus
  refine ⟨by simp [word], ?_⟩
  intro depth rest hdepth hrest
  simp only [word, Code.size_append, Code.size_cons, Token.size_ident, Code.size_nil] at hdepth
  obtain ⟨depth, rfl⟩ := Nat.exists_eq_add_of_le' (by omega : 2 ≤ depth)
  obtain ⟨names, hbounds⟩ := hpath.traitBounds_run (by omega : _ ≤ depth + 2) hrest allowsPlus
  refine ⟨.bounded "dyn " [.path false names], ?_⟩
  simp [word, step, type, quantifier, Token.isName, Token.keywords, hbounds]

end Grammar

end ProviderForge

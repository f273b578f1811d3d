import ProviderForge.Proofs.Grammar.Selection

namespace ProviderForge.Grammar

open Code Result

variable {code : Code}

def IsAttribute (code : Code) : Prop :=
  ∀ depth, 4 * Code.size code ≤ depth →
    ∃ node, attributeContent (read depth) false code = .ok (node, [])

theorem attributeContent_call {text : String} (hname : Token.isName text = true) (rules : Reader)
    (content : Code) :
    attributeContent rules false (call (word text) content) =
      .ok (.attribute false text (parens content), []) := by
  have hne := Token.ne_of_isName hname
  simp only [Token.keywords, List.forall_mem_cons] at hne
  simp [attributeContent, call, word, parens, hne, plainPath, plainPath.pathName, hname,
    Parser.many_none]

theorem IsAttribute.of_text {attributeName : String} (hname : Token.isName attributeName = true)
    (value : String) : IsAttribute (word attributeName ++ mark '=' ++ text value) := by
  intro depth hdepth
  have hliteral : IsExpression true (text value) := (IsCallee.literal _).isExpression
  simp only [word, mark, Code.size_append, Code.size_cons, Code.size_nil, Token.size_ident,
    Token.size_punct] at hdepth
  obtain ⟨node, hnode⟩ := hliteral.whole endsExpression_nil (by omega : _ ≤ depth)
  have hne := Token.ne_of_isName hname
  simp only [Token.keywords, List.forall_mem_cons] at hne
  refine ⟨.valueAttribute false (String.intercalate "::" [attributeName]) node, ?_⟩
  simp only [text] at hnode ⊢
  simp [attributeContent, word, mark, hne, plainPath, plainPath.pathName, hname, Parser.many_none,
    hnode]

theorem outerAttributes_run {rules : Reader} {node : Syntax}
    (hnode : attributeContent rules false code = .ok (node, [])) {rest : Code}
    (hhash : rest.atMark ['#'] = false) :
    outerAttributes rules (attributeMark code ++ rest) = .ok ([node], rest) := by
  simp [outerAttributes, attributeMark, mark, brackets, Parser.many, Parser.repeated, hnode, hhash]

theorem IsAttribute.run (hcode : IsAttribute code) {depth : Nat}
    (hdepth : 4 * Code.size code ≤ depth) {rest : Code} (hhash : rest.atMark ['#'] = false) :
    ∃ node, outerAttributes (read depth) (attributeMark code ++ rest) = .ok ([node], rest) := by
  obtain ⟨node, hnode⟩ := hcode depth hdepth
  exact ⟨node, outerAttributes_run hnode hhash⟩

theorem importTree_run {names : List String} {text : String} {last : Code}
    (hnames : ∀ name ∈ text :: names, Token.isName name = true ∨ name = "super")
    (hlast : last = [] ∨ last = colons ++ mark '*') {depth : Nat}
    (hdepth : names.length + 2 ≤ depth) (rest : Code) :
    ∃ node, read depth .importTree
      (Code.path (text :: names) ++ last ++ .punct ';' .alone :: rest) =
        .ok (node, .punct ';' .alone :: rest) := by
  induction names generalizing text depth with
  | nil =>
      obtain ⟨depth, rfl⟩ := Nat.exists_eq_add_of_le' hdepth
      have hstart : Token.isName text = true ∨ text = "super" := hnames text List.mem_cons_self
      rcases hlast with rfl | rfl
      · refine ⟨.word text, ?_⟩
        rcases hstart with hname | rfl
        · have hne := Token.ne_of_isName hname
          simp only [Token.keywords, List.forall_mem_cons] at hne
          simp [Code.path, word, step, Grammar.importTree, hname, hne]
        · simp [Code.path, word, step, Grammar.importTree]
      · refine ⟨.prefixed (text ++ "::") (.word "*"), ?_⟩
        rcases hstart with hname | rfl
        · have hne := Token.ne_of_isName hname
          simp only [Token.keywords, List.forall_mem_cons] at hne
          simp [Code.path, word, colons, operator, mark, step, Grammar.importTree, hname, hne]
        · simp [Code.path, word, colons, operator, mark, step, Grammar.importTree]
  | cons second names ih =>
      obtain ⟨depth, rfl⟩ := Nat.exists_eq_add_of_le' (by omega : 1 ≤ depth)
      obtain ⟨hstart, hothers⟩ := List.forall_mem_cons.mp hnames
      simp only [List.length_cons] at hdepth
      obtain ⟨node, hnode⟩ := ih hothers (by omega : _ ≤ depth)
      refine ⟨.prefixed (text ++ "::") node, ?_⟩
      have hcode : Code.path (text :: second :: names) ++ last ++ .punct ';' .alone :: rest =
          .ident text :: .punct ':' .joint :: .punct ':' .alone ::
            (Code.path (second :: names) ++ last ++ .punct ';' .alone :: rest) := by
        simp [Code.path, separated, word, colons, operator]
      rw [hcode]
      rw [List.append_assoc] at hnode ⊢
      rcases hstart with hname | rfl
      · have hne := Token.ne_of_isName hname
        simp only [Token.keywords, List.forall_mem_cons] at hne
        simp [step, Grammar.importTree, hname, hne, hnode]
      · simp [step, Grammar.importTree, hnode]

def IsItems (code : Code) : Prop :=
  IsSequence (fun depth => read depth .item) (fun _ => True) code

theorem IsItems.of_reads (hreads : Reads (fun depth => read depth .item) (fun _ => True) code) :
    IsItems code :=
  .single hreads fun _ => trivial

theorem atFunction_other {text : String}
    (hword : text ∉ ["const", "async", "unsafe", "extern", "fn"]) (rest : Code) :
    atFunction (.ident text :: rest) = false := by
  simp only [List.mem_cons, not_or] at hword
  simp [atFunction, functionKeywords, convention, Parser.word, hword, Except.toOption]

theorem path_length_le (names : List String) : names.length ≤ Code.size (Code.path names) := by
  induction names with
  | nil => simp
  | cons first names ih =>
      cases names with
      | nil => simp [Code.path, word]
      | cons second names =>
          have hsize : Code.size (Code.path (first :: second :: names)) =
              3 + Code.size (Code.path (second :: names)) := by
            simp only [Code.path, List.map_cons, separated, word, colons, operator,
              Code.size_append,
              Code.size_cons, Code.size_nil, Token.size_ident, Token.size_punct]
          simp only [List.length_cons] at ih ⊢
          omega

theorem IsItems.importing {names : List String} {text : String} {last : Code}
    (hnames : ∀ name ∈ text :: names, Token.isName name = true ∨ name = "super")
    (hlast : last = [] ∨ last = colons ++ mark '*') :
    IsItems (Code.statement (word "use" ++ Code.path (text :: names) ++ last)) := by
  refine .of_reads ⟨by simp [Code.statement, word], ?_⟩
  intro depth rest hdepth _
  have hlength := path_length_le (text :: names)
  simp only [Code.statement, word, mark, Code.size_append, Code.size_cons, Code.size_nil,
    Token.size_ident, Token.size_punct, List.length_cons] at hdepth hlength
  obtain ⟨depth, rfl⟩ := Nat.exists_eq_add_of_le' (by omega : 1 ≤ depth)
  obtain ⟨node, hnode⟩ := importTree_run hnames hlast (by omega : _ ≤ depth) rest
  have hglobal :
      (Code.path (text :: names) ++ last ++ .punct ';' .alone :: rest).atMark [':', ':'] =
      false := by
    cases names <;> simp [Code.path, separated, word]
  refine ⟨.importing "use " node, ?_⟩
  simp only [Code.statement, word, mark, List.append_assoc, List.cons_append, List.nil_append]
    at hnode hglobal ⊢
  simp [step, item, outerAttributes_none, itemBody, visibility, atFunction_other,
    Grammar.importing, hglobal, hnode]

theorem endsType_nil : EndsType [] := by
  constructor <;> rfl

theorem endsType_comma (rest : Code) : EndsType (.punct ',' .alone :: rest) := by
  constructor <;> simp

def IsField (code : Code) : Prop :=
  Reads (fun depth => namedField (read depth)) EndsType code

theorem IsField.plain {fieldName : String} {type : Code} (hname : Token.isName fieldName = true)
    (htype : IsType type) : IsField (word fieldName ++ mark ':' ++ type) := by
  refine ⟨by simp [word], ?_⟩
  intro depth rest hdepth hrest
  simp only [word, mark, Code.size_append, Code.size_cons, Code.size_nil, Token.size_ident,
    Token.size_punct] at hdepth
  obtain ⟨node, hnode⟩ := (htype true).run depth rest (by omega) hrest
  have hne := Token.ne_of_isName hname
  simp only [Token.keywords, List.forall_mem_cons] at hne
  refine ⟨.prefixed (fieldName ++ ": ") node, ?_⟩
  simp [word, mark, namedField, outerAttributes_none, visibility, hne, hname, hnode]

theorem IsField.documented {fieldName description : String} {type : Code}
    (hname : Token.isName fieldName = true) (htype : IsType type) :
    IsField (attributeMark (word "doc" ++ mark '=' ++ text description) ++ word "pub" ++
      word fieldName ++ mark ':' ++ type) := by
  refine ⟨by simp [word], ?_⟩
  intro depth rest hdepth hrest
  have hdoc : IsAttribute (word "doc" ++ mark '=' ++ text description) :=
    .of_text (by decide) description
  simp only [attributeMark, brackets, mark, word, Code.size_append, Code.size_cons, Code.size_nil,
    Token.size_ident, Token.size_punct, Token.size_group] at hdepth
  obtain ⟨comment, hcomment⟩ := hdoc.run
    (by simp only [word, mark, Code.size_append, Code.size_cons, Code.size_nil, Token.size_ident,
          Token.size_punct]; omega : _ ≤ depth)
    (by simp : Code.atMark ['#']
      (.ident "pub" :: .ident fieldName :: .punct ':' .alone :: (type ++ rest)) = false)
  obtain ⟨node, hnode⟩ := (htype true).run depth rest (by omega) hrest
  have hne := Token.ne_of_isName hname
  simp only [Token.keywords, List.forall_mem_cons] at hne
  refine ⟨.attributed [comment] (.prefixed ("pub " ++ fieldName ++ ": ") node), ?_⟩
  simp only [word, mark, List.append_assoc, List.cons_append, List.nil_append] at hcomment ⊢
  simp [namedField, hcomment, visibility, hne, hname, hnode, Syntax.withAttributes]

theorem recordItem_run (traits : List String) {typeName : String} {fields : Code}
    {nodes : List Syntax} (hname : Token.isName typeName = true) {depth : Nat}
    (hnodes : Parser.commaList (namedField (read depth)) fields = .ok (nodes, [])) (rest : Code) :
    read (depth + 1) .item (derive traits ++ word "pub" ++ word "struct" ++
        word typeName ++ braces fields ++ rest) =
      .ok (.attributed [.attribute false "derive" (parens (listed (traits.map word)))]
        (.recordItem ("pub struct " ++ typeName) [] [] nodes), rest) := by
  have hderived := outerAttributes_run
    (attributeContent_call (by decide : Token.isName "derive" = true) (read depth)
      (listed (traits.map word)))
    (by simp : Code.atMark ['#'] (.ident "pub" :: .ident "struct" :: .ident typeName ::
      .group .brace fields :: rest) = false)
  simp only [derive, word, braces, List.append_assoc, List.cons_append, List.nil_append]
    at hderived ⊢
  simp [step, item, hderived, itemBody, visibility, atFunction_other, recordType, hname,
    parameters, requirements, namedFields, hnodes, Syntax.withAttributes]

theorem IsItems.record {traits : List String} {typeName : String} {fields : Code}
    (hname : Token.isName typeName = true) (hfields : IsListing IsField fields) :
    IsItems (derive traits ++ word "pub" ++ word "struct" ++ word typeName ++ braces fields) := by
  refine .of_reads ⟨by simp [word], ?_⟩
  intro depth rest hdepth _
  simp only [word, braces, Code.size_append, Code.size_cons, Code.size_nil, Token.size_ident,
    Token.size_group] at hdepth
  obtain ⟨depth, rfl⟩ := Nat.exists_eq_add_of_le' (by omega : 1 ≤ depth)
  obtain ⟨nodes, hnodes⟩ := commaList_run hfields endsType_nil endsType_comma
    (by omega : _ ≤ depth)
  exact ⟨_, recordItem_run traits hname hnodes rest⟩

def IsParameter (code : Code) : Prop :=
  ∃ text tail, code = word text ++ mark ':' ++ .punct '&' .alone :: tail ∧
    Token.isName text = true ∧ IsType (.punct '&' .alone :: tail)

theorem IsParameter.reference {text : String} {type : Code} (hname : Token.isName text = true)
    (htype : IsType type) (hhead : IsReferable type) :
    IsParameter (word text ++ mark ':' ++ reference type) :=
  ⟨text, type, by simp [Code.reference, mark], hname, htype.reference hhead⟩

theorem IsParameter.mutableReference {text : String} {type : Code}
    (hname : Token.isName text = true) (htype : IsType type) :
    IsParameter (word text ++ mark ':' ++ mutableReference type) :=
  ⟨text, word "mut" ++ type, by simp [Code.mutableReference, mark], hname, htype.mutableReference⟩

theorem laterInputs_run {codes : List Code} (hcodes : ∀ code ∈ codes, IsParameter code)
    {depth : Nat} (first : Syntax) (fuel : Nat)
    (hdepth : 4 * Code.size (codes.flatMap (mark ',' ++ ·)) ≤ depth)
    (hfuel : codes.length < fuel) :
    ∃ nodes, laterInputs (inputs (read depth) false fuel) first (codes.flatMap (mark ',' ++ ·)) =
      .ok ((nodes, none), []) := by
  induction codes generalizing first fuel with
  | nil => exact ⟨[first], by simp [laterInputs]⟩
  | cons code codes ih =>
      obtain ⟨fuel, rfl⟩ := Nat.exists_eq_add_of_le' (by omega : 1 ≤ fuel)
      obtain ⟨⟨text, tail, rfl, hname, htype⟩, hothers⟩ := List.forall_mem_cons.mp hcodes
      have hends : EndsType (codes.flatMap (mark ',' ++ ·)) := by
        cases codes with
        | nil => exact endsType_nil
        | cons second codes => exact endsType_comma _
      rw [List.flatMap_cons] at hdepth ⊢
      generalize codes.flatMap (mark ',' ++ ·) = later at hdepth hends ih ⊢
      simp only [word, mark, List.cons_append, List.nil_append, Code.size_append,
        Code.size_cons, Token.size_ident, Token.size_punct, List.length_cons] at hdepth hfuel ⊢
      obtain ⟨bound, hbound⟩ := (IsPattern.name hname).reads.run depth
        (.punct ':' .alone :: .punct '&' .alone :: (tail ++ later))
        (by simp only [word, Code.size_cons, Code.size_nil, Token.size_ident]; omega)
        (by constructor <;> simp)
      obtain ⟨node, hnode⟩ := (htype true).run depth later
        (by simp only [Code.size_cons, Token.size_punct]; omega) hends
      obtain ⟨nodes, hnodes⟩ := ih hothers (.joined bound ": " node) fuel (by omega) (by omega)
      have hne := Token.ne_of_isName hname
      simp only [Token.keywords, List.forall_mem_cons] at hne
      refine ⟨first :: nodes, ?_⟩
      simp only [word, List.cons_append, List.nil_append] at hbound hnode
      rw [laterInputs]
      simp [inputs, outerAttributes_none, Parser.preview, receiver, hne, input, hname, hbound,
        hnode, hnodes, Except.toOption, Parser.word]

/-- The parameters of a function: none, or a receiver with others behind it. -/
def IsInputs (code : Code) : Prop :=
  code = [] ∨ ∃ (receiver : Code) (codes : List Code),
    code = receiver ++ codes.flatMap (mark ',' ++ ·) ∧
    (receiver = reference (word "self") ∨ receiver = mutableReference (word "self")) ∧
    ∀ code ∈ codes, IsParameter code

theorem length_flatMap_mark_le (codes : List Code) :
    codes.length ≤ (codes.flatMap (mark ',' ++ ·)).length := by
  induction codes with
  | nil => simp
  | cons code codes ih =>
      simp only [List.flatMap_cons, mark, List.length_append, List.length_cons] at ih ⊢
      omega

theorem IsInputs.run (hcode : IsInputs code) {depth : Nat}
    (hdepth : 4 * Code.size code ≤ depth) (rest : Code) :
    ∃ nodes, Parser.within .parenthesis (Parser.bounded (inputs (read depth) true))
      (.group .parenthesis code :: rest) = .ok ((nodes, none), rest) := by
  suffices hrun : ∃ nodes, inputs (read depth) true (code.length + 1) code =
      .ok ((nodes, none), []) by
    obtain ⟨nodes, hnodes⟩ := hrun
    exact ⟨nodes, Parser.within_run hnodes⟩
  rcases hcode with rfl | ⟨receiverCode, codes, rfl, hreceiver, hcodes⟩
  · exact ⟨[], by simp [inputs]⟩
  rw [Code.size_append] at hdepth
  have hlength := length_flatMap_mark_le codes
  have hsegment : Code.atMark [':', ':'] (codes.flatMap (mark ',' ++ ·)) = false := by
    cases codes <;> simp [mark]
  have hcolon : Code.atMark [':'] (codes.flatMap (mark ',' ++ ·)) = false := by
    cases codes <;> simp [mark]
  have hlater : ∀ first fuel, 4 * Code.size (codes.flatMap (mark ',' ++ ·)) ≤ depth →
      codes.length < fuel → _ := fun first fuel => laterInputs_run hcodes first fuel
  generalize codes.flatMap (mark ',' ++ ·) = later at hdepth hlength hsegment hcolon hlater ⊢
  rcases hreceiver with rfl | rfl
  · obtain ⟨nodes, hnodes⟩ := hlater (.word "&self") (later.length + 2) (by omega) (by omega)
    refine ⟨nodes, ?_⟩
    rw [inputs]
    simp [Code.reference, word, mark, outerAttributes_none, Parser.preview, receiver, hsegment,
      hcolon, Except.toOption, hnodes]
  · obtain ⟨nodes, hnodes⟩ := hlater (.word "&mut self") (later.length + 3) (by omega) (by omega)
    refine ⟨nodes, ?_⟩
    rw [inputs]
    simp [Code.mutableReference, word, mark, outerAttributes_none, Parser.preview, receiver,
      hsegment, hcolon, Except.toOption, hnodes]

/-- What a function returns: nothing, or a value of a type behind an arrow. -/
def IsOutput (code : Code) : Prop :=
  code = [] ∨ ∃ type, code = arrow ++ type ∧ IsType type

theorem IsOutput.run (hcode : IsOutput code) {depth : Nat} (hdepth : 4 * Code.size code ≤ depth)
    (content rest : Code) :
    ∃ node, output (read depth) true (code ++ .group .brace content :: rest) =
      .ok (node, .group .brace content :: rest) := by
  rcases hcode with rfl | ⟨type, rfl, htype⟩
  · exact ⟨none, by simp [output]⟩
  · simp only [arrow, operator, Code.size_append, Code.size_cons, Code.size_nil,
      Token.size_punct] at hdepth
    obtain ⟨node, hnode⟩ := (htype true).run depth (.group .brace content :: rest) (by omega)
      (by constructor <;> simp)
    exact ⟨some node, by simp [arrow, operator, output, hnode]⟩

def IsMembers (code : Code) : Prop :=
  IsSequence (fun depth => implementationMember (read depth)) (fun _ => True) code

theorem function_run {inputs output body : Code} {functionName : String}
    (hname : Token.isName functionName = true) (hinputs : IsInputs inputs)
    (houtput : IsOutput output) (hbody : IsBody body) {depth : Nat}
    (hdepth : 4 * Code.size (call (word functionName) inputs ++ output ++ braces body) ≤ depth)
    (head : String) (rest : Code) {before : Code} {keywords : String}
    (hbefore : functionKeywords before =
      .ok (keywords, .ident functionName :: .group .parenthesis inputs ::
        (output ++ .group .brace body :: rest))) :
    ∃ node, function (read depth) head false before = .ok (node, rest) := by
  simp only [call, word, parens, braces, Code.size_append, Code.size_cons, Code.size_nil,
    Token.size_ident, Token.size_group] at hdepth
  obtain ⟨inputNodes, hinputNodes⟩ := hinputs.run (by omega : _ ≤ depth)
    (output ++ .group .brace body :: rest)
  obtain ⟨outputNode, houtputNode⟩ := houtput.run (by omega : _ ≤ depth) body rest
  obtain ⟨statements, hstatements⟩ := hbody.parts_run (by omega : _ ≤ depth) true rest
  refine ⟨.function (.signature (head ++ keywords ++ functionName) [] inputNodes none outputNode)
    [] [] statements, ?_⟩
  simp [function, signature, hbefore, hname, parameters, hinputNodes, houtputNode, requirements,
    hstatements]

theorem functionKeywords_fn (rest : Code) :
    functionKeywords (.ident "fn" :: rest) = .ok ("fn ", rest) := by
  simp [functionKeywords, convention]

theorem functionKeywords_async (rest : Code) :
    functionKeywords (.ident "async" :: .ident "fn" :: rest) = .ok ("async fn ", rest) := by
  simp [functionKeywords, convention]

theorem IsMembers.function {keywords inputs output body : Code} {functionName : String}
    (hkeywords : keywords = word "pub" ++ word "fn" ∨ keywords = word "fn" ∨
      keywords = word "async" ++ word "fn")
    (hname : Token.isName functionName = true) (hinputs : IsInputs inputs)
    (houtput : IsOutput output) (hbody : IsBody body) :
    IsMembers (keywords ++ (call (word functionName) inputs ++ output ++ braces body)) := by
  refine .single ⟨by simp [braces], ?_⟩ fun _ => trivial
  intro depth rest hdepth _
  rw [Code.size_append] at hdepth
  have hrun := function_run hname hinputs houtput hbody (by omega : _ ≤ depth)
  simp only [call, word, parens, braces, List.append_assoc, List.cons_append, List.nil_append]
  rcases hkeywords with rfl | rfl | rfl
  · obtain ⟨node, hnode⟩ := hrun "pub " rest (functionKeywords_fn _)
    refine ⟨node, ?_⟩
    simp [word, implementationMember, outerAttributes_none, visibility, atFunction,
      functionKeywords_fn, Except.toOption, hnode]
  · obtain ⟨node, hnode⟩ := hrun "" rest (functionKeywords_fn _)
    refine ⟨node, ?_⟩
    simp [word, implementationMember, outerAttributes_none, visibility, atFunction,
      functionKeywords_fn, Except.toOption, hnode]
  · obtain ⟨node, hnode⟩ := hrun "" rest (functionKeywords_async _)
    refine ⟨node, ?_⟩
    simp [word, implementationMember, outerAttributes_none, visibility, atFunction,
      functionKeywords_async, Except.toOption, hnode]

theorem IsMembers.run (hcode : IsMembers code) {depth : Nat} (hdepth : 4 * Code.size code ≤ depth)
    (hhash : code.atMark ['#'] = false) (rest : Code) :
    ∃ items, Parser.within .brace (moduleContent (read depth) (implementationMember (read depth)))
      (.group .brace code :: rest) = .ok (([], items), rest) := by
  obtain ⟨items, hitems⟩ := hcode.many_run trivial hdepth
  refine ⟨items, Parser.within_run ?_⟩
  simp [moduleContent, innerAttributes_none hhash, hitems]

/-- The members of an implementation, read up to its closing brace. -/
def membersOf (depth : Nat) : Parser (List Syntax × List Syntax) :=
  Parser.within .brace (moduleContent (read depth) (implementationMember (read depth)))

theorem item_of_implementation (rules : Reader) (following : Code) :
    item rules (.ident "impl" :: following) =
      implementation rules (.ident "impl" :: following) := by
  cases hnode : implementation rules (.ident "impl" :: following) <;>
    simp [item, outerAttributes_none, itemBody, visibility, atFunction_other, hnode]

theorem implementation_run {typeName : String} (hname : Token.isName typeName = true) {depth : Nat}
    (hdepth : 4 ≤ depth) (members rest : Code) :
    ∃ owner, read (depth + 1) .item (word "impl" ++ word typeName ++ braces members ++ rest) =
      membersOf depth (.group .brace members :: rest) >>= fun found =>
        .ok (.implementation "impl" [] none owner [] found.1.1 found.1.2, found.2) := by
  have hpath : IsPath false (word typeName) := .single (.word (.inl hname))
  obtain ⟨owner, howner⟩ := (hpath.isType true).run depth (.group .brace members :: rest)
    (by simpa only [word, Code.size_cons, Code.size_nil, Token.size_ident] using hdepth)
    (by constructor <;> simp)
  refine ⟨owner, ?_⟩
  simp only [word, braces, List.cons_append, List.nil_append] at howner ⊢
  rw [read_succ, step, item_of_implementation]
  simp [Grammar.implementation, declaresParameters, howner, requirements, membersOf]

theorem IsItems.implementation {typeName : String} {members : Code}
    (hname : Token.isName typeName = true) (hmembers : IsMembers members)
    (hhash : members.atMark ['#'] = false) :
    IsItems (word "impl" ++ word typeName ++ braces members) := by
  refine .of_reads ⟨by simp [word], ?_⟩
  intro depth rest hdepth _
  simp only [word, braces, Code.size_append, Code.size_cons, Code.size_nil, Token.size_ident,
    Token.size_group] at hdepth
  obtain ⟨depth, rfl⟩ := Nat.exists_eq_add_of_le' (by omega : 1 ≤ depth)
  obtain ⟨items, hitems⟩ := hmembers.run (by omega : _ ≤ depth) hhash rest
  obtain ⟨owner, hrun⟩ := implementation_run hname (by omega : 4 ≤ depth) members rest
  rw [membersOf, hitems, ok_bind] at hrun
  exact ⟨_, hrun⟩

theorem traitImplementation_run {contract : Code} {typeName : String}
    (hcontract : IsPath false contract) (hname : Token.isName typeName = true) {depth : Nat}
    (hdepth : 4 * (Code.size contract + 1) ≤ depth) (members rest : Code) :
    ∃ names owner, read (depth + 2) .item
        (word "impl" ++ contract ++ word "for" ++ word typeName ++ braces members ++ rest) =
      membersOf (depth + 1) (.group .brace members :: rest) >>= fun found =>
        .ok (.implementation "impl" [] (some (.path false names)) owner [] found.1.1 found.1.2,
          found.2) := by
  have hpath : IsPath false (word typeName) := .single (.word (.inl hname))
  obtain ⟨names, hnames⟩ := hcontract.type_run (by omega : _ ≤ depth + 2)
    (by constructor <;> simp :
      EndsType (.ident "for" :: .ident typeName :: .group .brace members :: rest)) true
  obtain ⟨owner, howner⟩ := (hpath.isType true).run (depth + 1) (.group .brace members :: rest)
    (by simp only [word, Code.size_cons, Code.size_nil, Token.size_ident]; omega)
    (by constructor <;> simp)
  obtain ⟨text, tail, rfl, -⟩ := hcontract.head
  refine ⟨names, owner, ?_⟩
  simp only [word, braces, List.append_assoc, List.cons_append, List.nil_append] at hnames howner ⊢
  have hcontractRun : read (depth + 1) (.type true) (.ident text ::
      (tail ++ .ident "for" :: .ident typeName :: .group .brace members :: rest)) = _ := hnames
  rw [read_succ, step, item_of_implementation]
  simp [Grammar.implementation, declaresParameters, hcontractRun, howner, requirements, membersOf,
    -read_succ]

theorem IsItems.traitImplementation {contract members : Code} {typeName : String}
    (hcontract : IsPath false contract) (hname : Token.isName typeName = true)
    (hmembers : IsMembers members) (hhash : members.atMark ['#'] = false) :
    IsItems (word "impl" ++ contract ++ word "for" ++ word typeName ++ braces members) := by
  refine .of_reads ⟨by simp [word], ?_⟩
  intro depth rest hdepth _
  simp only [word, braces, Code.size_append, Code.size_cons, Code.size_nil, Token.size_ident,
    Token.size_group] at hdepth
  obtain ⟨depth, rfl⟩ := Nat.exists_eq_add_of_le' (by omega : 2 ≤ depth)
  obtain ⟨items, hitems⟩ := hmembers.run (by omega : _ ≤ depth + 1) hhash rest
  obtain ⟨names, owner, hrun⟩ :=
    traitImplementation_run hcontract hname (by omega : _ ≤ depth) members rest
  rw [membersOf, hitems, ok_bind] at hrun
  exact ⟨_, hrun⟩

theorem IsItems.static {tableName : String} {type value : Code}
    (hname : Token.isName tableName = true) (htype : IsType type)
    (hvalue : IsExpression true value) :
    IsItems (word "pub" ++ word "static" ++ word tableName ++ mark ':' ++ type ++ mark '=' ++
      Code.statement value) := by
  refine .of_reads ⟨by simp [word], ?_⟩
  intro depth rest hdepth _
  simp only [word, mark, Code.statement, Code.size_append, Code.size_cons, Code.size_nil,
    Token.size_ident, Token.size_punct] at hdepth
  obtain ⟨depth, rfl⟩ := Nat.exists_eq_add_of_le' (by omega : 1 ≤ depth)
  obtain ⟨typeNode, htypeNode⟩ := (htype true).run depth
    (.punct '=' .alone :: (value ++ .punct ';' .alone :: rest)) (by omega)
    (by constructor <;> simp)
  obtain ⟨node, hnode⟩ := hvalue.run depth (.punct ';' .alone :: rest) (by omega)
    (endsExpression_punct (.inr rfl) rest)
  have hne := Token.ne_of_isName hname
  simp only [Token.keywords, List.forall_mem_cons] at hne
  refine ⟨.constantItem ("pub static " ++ tableName) typeNode (some node), ?_⟩
  simp [word, mark, Code.statement, step, item, outerAttributes_none, itemBody, visibility,
    atFunction_other, Grammar.static, hne, hname, htypeNode, optionalValue, hnode]

/-- Items that begin with no attribute are a file. -/
theorem IsItems.isFile (hcode : IsItems code) (hhash : code.atMark ['#'] = false) :
    ∃ file, SourceFile.ofCode code = .ok file := by
  obtain ⟨items, hitems⟩ := hcode.many_run trivial
    (by simp only [depth]; omega : _ ≤ Grammar.depth code)
  refine ⟨⟨[], items⟩, ?_⟩
  simp [SourceFile.ofCode, file, innerAttributes_none hhash, hitems]

end ProviderForge.Grammar

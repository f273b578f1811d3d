import ProviderForge.Proofs.Grammar.Expression

namespace ProviderForge.Grammar

open Code Result

/-- What may stand behind a statement: nothing that would belong to it. -/
structure EndsStatement (rest : Code) : Prop where
  semicolon : rest.atMark [';'] = false
  point : rest.atPoint = false
  attempt : rest.atMark ['?'] = false
  hash : rest.atMark ['#'] = false
  otherwise : rest.atWord "else" = false

theorem endsStatement_nil : EndsStatement [] := by
  constructor <;> rfl

theorem endsStatement_word {text : String} (hword : ¬ text = "else") (rest : Code) :
    EndsStatement (.ident text :: rest) := by
  constructor <;> simp [hword]

/-- Words with which something else than an expression can begin. -/
def statementWords : List String :=
  ["let", "pub", "extern", "use", "fn", "mod", "type", "struct", "enum", "trait", "impl", "macro",
    "crate", "static", "const", "unsafe", "async", "union", "auto", "default", "if", "while",
    "loop", "match", "for", "try", "else"]

/-- No macro is called where a keyword stands that begins no path. -/
theorem macroUse_keyword {text : String} {following : Code}
    (hstart : ¬ Code.atPathStart (.ident text :: following) = true) :
    macroUse (.ident text :: following) = .none := by
  have hname : Token.isName text = false := by
    simp only [Code.atPathStart_cons, Code.atName_ident, Bool.or_eq_true, not_or,
      Bool.not_eq_true] at hstart
    exact hstart.1
  simp only [macroUse, plainPath, plainPath.pathName, Parser.bind_run, Parser.accepts_run,
    Parser.looksAt_run, Parser.ite_run, Code.atMark_ident, hstart, ok_bind, if_false,
    Bool.false_eq_true]
  simp [Parser.name, hname]

/-- No macro is called where neither colons nor an exclamation mark follow the first word. -/
theorem macroUse_none {text : String} {following : Code}
    (hsegment : following.atMark [':', ':'] = false) (hbang : following.atMark ['!'] = false) :
    macroUse (.ident text :: following) = .none := by
  have hlater : ∀ parser : Parser String,
      Parser.many (·.atMark [':', ':']) parser following = .ok ([], following) :=
    fun parser => Parser.many_none hsegment
  by_cases hstart : Code.atPathStart (.ident text :: following) = true
  · simp only [macroUse, plainPath, plainPath.pathName, Parser.bind_run, Parser.accepts_run,
      Parser.looksAt_run, Parser.ite_run, Code.atMark_ident, Bool.false_eq_true, if_false, hstart,
      ok_bind, if_true, Parser.anyWord_run, hlater, Parser.pure_run, hbang]
    rfl
  · exact macroUse_keyword hstart

structure StartsSentence (code : Code) : Prop where
  macroUse : macroUse code = .none
  binding : code.atWord "let" = false
  item : atItem code = false
  block : atBlockLike code = false
  statement : EndsStatement code

theorem startsSentence_word {text : String} {following : Code}
    (hword : text ∉ statementWords) (hsegment : following.atMark [':', ':'] = false)
    (hbang : following.atMark ['!'] = false) : StartsSentence (.ident text :: following) := by
  simp only [statementWords, List.mem_cons, not_or] at hword
  constructor
  · exact macroUse_none hsegment hbang
  · simp [hword]
  · simp [atItem, hword]
  · simp [atBlockLike, hword]
  · exact endsStatement_word (by simp [hword]) following

structure EndsSentence (rest : Code) : Prop extends EndsExpression true rest where
  begins : atBegin rest = false
  exclamation : rest.atMark ['!'] = false

theorem endsSentence_nil : EndsSentence [] :=
  ⟨endsExpression_nil, rfl, rfl⟩

theorem endsSentence_punct {character : Char} (hcharacter : character = ',' ∨ character = ';')
    (rest : Code) : EndsSentence (.punct character .alone :: rest) := by
  refine ⟨endsExpression_punct hcharacter rest, ?_, ?_⟩ <;>
    rcases hcharacter with rfl | rfl <;> simp [atBegin]

structure IsSentence (code : Code) : Prop where
  starts : ∀ rest, EndsSentence rest → StartsSentence (code ++ rest)
  reads : Reads (fun depth => read depth .arm) EndsSentence code

theorem armBody_of_sentence {rules : Reader} {code : Code} (hstarts : StartsSentence code) :
    armBody rules code = (do
      let operand ← rules (.operand true)
      rules (.operation true operand loosest)) code := by
  simp [armBody, outerAttributes_none hstarts.statement.hash, hstarts.block]

theorem IsExpression.isSentence {code : Code} (hexpression : IsExpression true code)
    (hstarts : ∀ rest, EndsSentence rest → StartsSentence (code ++ rest)) : IsSentence code := by
  refine ⟨hstarts, hexpression.nonempty, ?_⟩
  intro depth rest hdepth hrest
  have hpositive := Code.size_pos hexpression.nonempty
  obtain ⟨depth, rfl⟩ := Nat.exists_eq_add_of_le' (by omega : 1 ≤ depth)
  obtain ⟨node, hnode⟩ := hexpression.run (depth + 1) rest hdepth hrest.toEndsExpression
  refine ⟨node, ?_⟩
  change armBody (read depth) _ = _
  rw [armBody_of_sentence (hstarts rest hrest)]
  exact hnode

theorem IsSentence.assignment {target value : Code} (htarget : IsAccess true target)
    (hvalue : IsOperand true value)
    (hstarts : ∀ rest, StartsSentence (target ++ .punct '=' .alone :: rest)) :
    IsSentence (target ++ mark '=' ++ value) := by
  refine ⟨fun rest _ => by simpa [mark] using hstarts (value ++ rest), by simp [mark], ?_⟩
  intro depth rest hdepth hrest
  simp only [mark, Code.size_append, Code.size_cons, Code.size_nil, Token.size_punct] at hdepth
  obtain ⟨depth, rfl⟩ := Nat.exists_eq_add_of_le' (by omega : 2 ≤ depth)
  have hends : EndsOperand true (.punct '=' .alone :: (value ++ rest)) := by
    refine ⟨⟨⟨?_, ?_, ?_⟩, ?_⟩, ?_, ?_, ?_⟩ <;> simp
  obtain ⟨base, fuel, hrange, -, hbase⟩ := htarget.run depth
    (.punct '=' .alone :: (value ++ rest)) (by omega) hends.toEndsAccess
  rw [trailers_none hends] at hbase
  obtain ⟨node, hnode⟩ := rightOperand_run hvalue (by omega : _ ≤ depth + 1)
    hrest.toEndsExpression (by decide : loosest < assignmentLevel)
  refine ⟨.assignment base node, ?_⟩
  change armBody (read (depth + 1)) _ = _
  simp only [mark, List.append_assoc, List.cons_append, List.nil_append]
  rw [armBody_of_sentence (hstarts (value ++ rest))]
  have hoperand : read (depth + 1) (.operand true)
      (target ++ .punct '=' .alone :: (value ++ rest)) =
        .ok (base, .punct '=' .alone :: (value ++ rest)) := hbase
  rw [Parser.bind_run, hoperand, ok_bind]
  change operation (read depth) true base loosest _ = _
  have hoperator : operatorAt? (.punct '=' .alone :: (value ++ rest)) = none := by
    simp [operatorAt?, operators]
  have hassignment : atAssignment (.punct '=' .alone :: (value ++ rest)) = true := by
    simp [atAssignment]
  simp [operation, operations, hrange, hoperator, hassignment, loosest, hnode, hrest.operator,
    hrest.assignment, hrest.range, hrest.cast, isRange]

theorem sentence_of_atom {code : Code} {rest : Code} {node : Syntax} {depth : Nat}
    (hplain : StartsPlainly code) (hstarts : StartsSentence (code ++ rest))
    (hatom : atom (read depth) true (code ++ rest) = .ok (node, rest))
    (hrest : EndsSentence rest) : read (depth + 2) .arm (code ++ rest) = .ok (node, rest) := by
  change armBody (read (depth + 1)) _ = _
  rw [armBody_of_sentence hstarts]
  exact expression_of_operand
    (operand_of_whole_atom hplain hatom hrest.toEndsOperand) hrest.toEndsExpression

theorem EndsSentence.startsSentence {rest : Code} (hrest : EndsSentence rest) {text : String}
    (hword : text ∉ statementWords) : StartsSentence (.ident text :: rest) :=
  startsSentence_word hword hrest.segment hrest.exclamation

theorem IsSentence.return : IsSentence (word "return") := by
  refine ⟨fun rest hrest => hrest.startsSentence (by decide), by simp [word], ?_⟩
  intro depth rest hdepth hrest
  simp only [word, Code.size_cons, Code.size_nil, Token.size_ident] at hdepth
  obtain ⟨depth, rfl⟩ := Nat.exists_eq_add_of_le' (by omega : 2 ≤ depth)
  refine ⟨.jump "return" none, sentence_of_atom (startsPlainly_ident "return" [])
    (hrest.startsSentence (by decide)) ?_ hrest⟩
  simp [word, atom, atAsyncBlock, atClosure, atPath, Token.isName, Token.keywords, jumping,
    hrest.begins]

theorem IsSentence.break : IsSentence (word "break") := by
  refine ⟨fun rest hrest => hrest.startsSentence (by decide), by simp [word], ?_⟩
  intro depth rest hdepth hrest
  simp only [word, Code.size_cons, Code.size_nil, Token.size_ident] at hdepth
  obtain ⟨depth, rfl⟩ := Nat.exists_eq_add_of_le' (by omega : 2 ≤ depth)
  have hlifetime : rest.atLifetime = false := by
    have hbegins := hrest.begins
    simp only [atBegin, Bool.or_eq_false_iff] at hbegins
    exact hbegins.1.2
  refine ⟨.jump "break" none, sentence_of_atom (startsPlainly_ident "break" [])
    (hrest.startsSentence (by decide)) ?_ hrest⟩
  simp [word, atom, atAsyncBlock, atClosure, atPath, Token.isName, Token.keywords, breaking,
    hlifetime, hrest.begins]

theorem IsSentence.returning {value : Code} (hvalue : IsExpression true value) {text : String}
    {tail : Code} (hhead : value = .ident text :: tail) (hword : ¬ text = "as") :
    IsSentence (word "return" ++ value) := by
  subst hhead
  have hstarts : ∀ rest, StartsSentence (word "return" ++ .ident text :: tail ++ rest) :=
    fun rest => startsSentence_word (by decide) (by simp) (by simp)
  refine ⟨fun rest _ => hstarts rest, by simp [word], ?_⟩
  intro depth rest hdepth hrest
  simp only [word, List.cons_append, List.nil_append, Code.size_cons, Token.size_ident] at hdepth
  obtain ⟨depth, rfl⟩ := Nat.exists_eq_add_of_le' (by omega : 2 ≤ depth)
  obtain ⟨node, hnode⟩ := hvalue.run depth rest
    (by simp only [Code.size_cons, Token.size_ident]; omega) hrest.toEndsExpression
  refine ⟨.jump "return" (some node), sentence_of_atom (startsPlainly_ident "return" _)
    (hstarts rest) ?_ hrest⟩
  simp only [List.cons_append] at hnode
  simp [word, atom, atAsyncBlock, atClosure, atPath, Token.isName, Token.keywords, jumping,
    atBegin, hword, hnode]

structure IsStatement (code : Code) : Prop where
  nonempty : code ≠ []
  starts : ∀ rest, EndsStatement (code ++ rest)
  run : ∀ depth rest, 4 * Code.size code ≤ depth → EndsStatement rest → ∃ node,
    statement (read depth) (code ++ rest) = .ok (node, rest) ∧ needsSemicolon node = false

theorem statement_of_sentence {rules : Reader} {code : Code} (hstarts : StartsSentence code) :
    Grammar.statement rules code = expressionStatement rules [] code := by
  simp [Grammar.statement, outerAttributes_none hstarts.statement.hash, hstarts.macroUse,
    hstarts.binding, hstarts.item]

theorem IsSentence.isStatement {code : Code} (hsentence : IsSentence code) :
    IsStatement (Code.statement code) := by
  have hstarts : ∀ rest, StartsSentence (code ++ .punct ';' .alone :: rest) :=
    fun rest => hsentence.starts _ (endsSentence_punct (.inr rfl) rest)
  refine ⟨by simp [Code.statement, mark], fun rest => ?_, ?_⟩
  · simpa [Code.statement, mark] using (hstarts rest).statement
  · intro depth rest hdepth hrest
    simp only [Code.statement, mark, Code.size_append, Code.size_cons, Code.size_nil,
      Token.size_punct] at hdepth
    obtain ⟨node, hnode⟩ := hsentence.reads.run depth (.punct ';' .alone :: rest) (by omega)
      (endsSentence_punct (.inr rfl) rest)
    simp only [Code.statement, mark, List.append_assoc, List.cons_append, List.nil_append]
    rw [statement_of_sentence (hstarts rest)]
    by_cases hmacro : isMacro (attachLeft [] node) = true
    · exact ⟨.macroStatement (attachLeft [] node) true,
        by simp [expressionStatement, hnode, hmacro], rfl⟩
    · exact ⟨.statement (attachLeft [] node) true,
        by simp [expressionStatement, hnode, hmacro], rfl⟩

def IsStatements (code : Code) : Prop :=
  ∃ statements : List Code, code = statements.flatten ∧ ∀ part ∈ statements, IsStatement part

namespace IsStatements

variable {code later : Code}

theorem nil : IsStatements [] :=
  ⟨[], rfl, by simp⟩

theorem single (hcode : IsStatement code) : IsStatements code :=
  ⟨[code], by simp, by simpa using hcode⟩

theorem append (hcode : IsStatements code) (hlater : IsStatements later) :
    IsStatements (code ++ later) := by
  obtain ⟨statements, rfl, hstatements⟩ := hcode
  obtain ⟨laterStatements, rfl, hlaterStatements⟩ := hlater
  refine ⟨statements ++ laterStatements, by simp, ?_⟩
  intro part hmem
  exact (List.mem_append.mp hmem).elim (hstatements part) (hlaterStatements part)

theorem flatten {codes : List Code} (hcodes : ∀ code ∈ codes, IsStatements code) :
    IsStatements codes.flatten := by
  induction codes with
  | nil => exact nil
  | cons first rest ih =>
      obtain ⟨hfirst, hrest⟩ := List.forall_mem_cons.mp hcodes
      exact hfirst.append (ih hrest)

end IsStatements

theorem IsSentence.isStatements {code : Code} (hsentence : IsSentence code) :
    IsStatements (Code.statement code) :=
  .single hsentence.isStatement

/-- Statements, and perhaps a sentence that the block stands for. -/
def IsBody (code : Code) : Prop :=
  ∃ statements last, code = statements ++ last ∧ IsStatements statements ∧
    (last = [] ∨ IsSentence last)

theorem IsStatements.isBody {code : Code} (hcode : IsStatements code) : IsBody code :=
  ⟨code, [], by simp, hcode, .inl rfl⟩

theorem IsStatements.body {code last : Code} (hcode : IsStatements code)
    (hlast : IsSentence last) : IsBody (code ++ last) :=
  ⟨code, last, rfl, hcode, .inr hlast⟩

theorem IsSentence.isBody {code : Code} (hsentence : IsSentence code) : IsBody code :=
  ⟨[], code, rfl, .nil, .inr hsentence⟩

theorem endsStatement_body {statements : List Code} {last : Code}
    (hstatements : ∀ part ∈ statements, IsStatement part) (hlast : last = [] ∨ IsSentence last) :
    EndsStatement (statements.flatten ++ last) := by
  cases statements with
  | nil =>
      rcases hlast with rfl | hlast
      · exact endsStatement_nil
      · simpa using (hlast.starts [] endsSentence_nil).statement
  | cons first rest =>
      simpa using (hstatements first List.mem_cons_self).starts (rest.flatten ++ last)

theorem statementList_run {statements : List Code} {last : Code}
    (hstatements : ∀ part ∈ statements, IsStatement part) (hlast : last = [] ∨ IsSentence last)
    {depth : Nat} (fuel : Nat) (hdepth : 4 * Code.size (statements.flatten ++ last) ≤ depth)
    (hfuel : (statements.flatten ++ last).length < fuel) :
    ∃ nodes, statementList (read depth) fuel (statements.flatten ++ last) = .ok (nodes, []) := by
  induction statements generalizing fuel with
  | nil =>
      obtain ⟨fuel, rfl⟩ := Nat.exists_eq_add_of_le' (by omega : 1 ≤ fuel)
      rcases hlast with rfl | hlast
      · exact ⟨[], by simp [statementList]⟩
      · simp only [List.flatten_nil, List.nil_append] at hdepth ⊢
        have hstarts := hlast.starts [] endsSentence_nil
        rw [List.append_nil] at hstarts
        obtain ⟨node, hnode⟩ := hlast.reads.whole endsSentence_nil hdepth
        have hstatement : ∃ node, Grammar.statement (read depth) last = .ok (node, []) := by
          rw [statement_of_sentence hstarts]
          simp only [expressionStatement, Parser.bind_run, hnode, ok_bind, Parser.accepts_run,
            Parser.ite_run, Parser.pure_run, Code.atMark_nil, Bool.false_eq_true, if_false]
          split <;> exact ⟨_, rfl⟩
        obtain ⟨node, hnode⟩ := hstatement
        refine ⟨[node], ?_⟩
        simp [statementList, hlast.reads.nonempty, hstarts.statement.semicolon, hnode]
  | cons first rest ih =>
      obtain ⟨fuel, rfl⟩ := Nat.exists_eq_add_of_le' (by omega : 1 ≤ fuel)
      obtain ⟨hfirst, hrest⟩ := List.forall_mem_cons.mp hstatements
      simp only [List.flatten_cons, List.append_assoc] at hdepth hfuel ⊢
      have hlength := List.length_pos_iff.mpr hfirst.nonempty
      rw [Code.size_append] at hdepth
      rw [List.length_append] at hfuel
      obtain ⟨node, hnode, hterminated⟩ := hfirst.run depth (rest.flatten ++ last) (by omega)
        (endsStatement_body hrest hlast)
      obtain ⟨nodes, hnodes⟩ := ih hrest fuel (by omega) (by omega)
      have hsemicolon := (hfirst.starts (rest.flatten ++ last)).semicolon
      have hstart : (first ++ (rest.flatten ++ last)).isEmpty = false := by
        simp [hfirst.nonempty]
      cases hend : (rest.flatten ++ last).isEmpty with
      | true =>
          rw [List.isEmpty_iff] at hend
          refine ⟨[node], ?_⟩
          simp only [statementList, Parser.bind_run, Parser.isAtEnd_run, ok_bind, Parser.ite_run,
            Parser.accepts_run, hsemicolon, hstart, hnode, Parser.pure_run, Bool.false_eq_true,
            if_false]
          simp [hend]
      | false =>
          refine ⟨node :: nodes, ?_⟩
          simp only [statementList, Parser.bind_run, Parser.isAtEnd_run, ok_bind, Parser.ite_run,
            Parser.accepts_run, hsemicolon, hstart, hnode, hend, hterminated, hnodes,
            Parser.pure_run, Bool.false_eq_true, if_false]

theorem IsBody.block_run {code : Code} (hbody : IsBody code) {depth : Nat}
    (hdepth : 4 * Code.size code ≤ depth) (allowsAttributes : Bool) (rest : Code) :
    ∃ statements, read (depth + 1) (.block allowsAttributes) (.group .brace code :: rest) =
      .ok (.block "" [] statements, rest) := by
  obtain ⟨_, last, rfl, ⟨statements, rfl, hstatements⟩, hlast⟩ := hbody
  obtain ⟨nodes, hnodes⟩ := statementList_run hstatements hlast _ hdepth (Nat.lt_succ_self _)
  have hhash := (endsStatement_body hstatements hlast).hash
  have hcontent : blockContent (read depth) allowsAttributes (statements.flatten ++ last) =
      .ok (.block "" [] nodes, []) := by
    cases allowsAttributes <;>
      simp only [blockContent, Parser.bind_run, innerAttributes_none hhash,
        Parser.pure_run, ok_bind, if_true, Bool.false_eq_true, if_false, Parser.bounded_run,
        hnodes]
  exact ⟨nodes, Parser.within_run hcontent⟩

end ProviderForge.Grammar

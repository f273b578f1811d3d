import ProviderForge.Proofs.Grammar.Statement

namespace ProviderForge.Grammar

open Code Result

variable {allowsRecord : Bool} {code : Code}

theorem endsExpression_word {text : String} (hword : ¬ text = "as") (rest : Code) :
    EndsExpression allowsRecord (.ident text :: rest) := by
  refine ⟨⟨⟨⟨?_, ?_, ?_⟩, ?_⟩, ?_, ?_, ?_⟩, ?_, ?_, ?_, ?_⟩ <;>
    simp [operatorAt?, operators, atAssignment, hword]

theorem endsExpression_brace (content rest : Code) :
    EndsExpression false (.group .brace content :: rest) := by
  refine ⟨⟨⟨⟨?_, ?_, ?_⟩, ?_⟩, ?_, ?_, ?_⟩, ?_, ?_, ?_, ?_⟩ <;>
    simp [operatorAt?, operators, atAssignment]

theorem endsExpression_fatArrow (rest : Code) :
    EndsExpression allowsRecord (.punct '=' .joint :: .punct '>' .alone :: rest) := by
  refine ⟨⟨⟨⟨?_, ?_, ?_⟩, ?_⟩, ?_, ?_, ?_⟩, ?_, ?_, ?_, ?_⟩ <;>
    simp [operatorAt?, operators, atAssignment]

theorem statement_of_binding {rules : Reader} {following rest : Code} {node : Syntax}
    (hbinding : binding rules (.ident "let" :: following) = .ok (node, rest)) :
    Grammar.statement rules (.ident "let" :: following) = .ok (node, rest) := by
  have hmacro : macroUse (.ident "let" :: following) = .none :=
    macroUse_keyword (by simp [Token.isName, Token.keywords])
  simp [Grammar.statement, outerAttributes_none, hmacro, hbinding]

theorem endsPattern_assignment (rest : Code) : EndsPattern (.punct '=' .alone :: rest) := by
  constructor <;> simp

theorem IsStatement.bind {pattern value : Code} (hpattern : IsPattern pattern)
    (hvalue : IsExpression true value) : IsStatement (bind pattern value) := by
  refine ⟨by simp [Code.bind, word], fun rest => ?_, ?_⟩
  · simpa [Code.bind, word] using @endsStatement_word "let" (by decide) _
  intro depth rest hdepth _
  simp only [Code.bind, word, mark, Code.size_append, Code.size_cons, Code.size_nil,
    Token.size_punct, Token.size_ident] at hdepth
  obtain ⟨bound, hbound⟩ := hpattern.reads.run depth
    (.punct '=' .alone :: (value ++ .punct ';' .alone :: rest)) (by omega)
    (endsPattern_assignment _)
  obtain ⟨node, hnode⟩ := hvalue.run depth (.punct ';' .alone :: rest) (by omega)
    (endsExpression_punct (.inr rfl) rest)
  refine ⟨.binding bound (some node) none, ?_, rfl⟩
  simp only [Code.bind, word, mark, List.append_assoc, List.cons_append, List.nil_append]
  refine statement_of_binding ?_
  cases hbrace : node.endsInBrace <;> simp [binding, hbound, hnode, hbrace]

theorem IsStatement.bindMutable {variableName : String} {value : Code}
    (hname : Token.isName variableName = true) (hvalue : IsExpression true value) :
    IsStatement (bindMutable variableName value) :=
  .bind (.mutable hname) hvalue

theorem IsStatement.bindTyped {pattern type value : Code} (hpattern : IsPattern pattern)
    (htype : IsType type) (hvalue : IsExpression true value) :
    IsStatement
      (word "let" ++ pattern ++ mark ':' ++ type ++ mark '=' ++ Code.statement value) := by
  refine ⟨by simp [word], fun rest => ?_, ?_⟩
  · simpa [word] using @endsStatement_word "let" (by decide) _
  intro depth rest hdepth _
  simp only [Code.statement, word, mark, Code.size_append, Code.size_cons, Code.size_nil,
    Token.size_punct, Token.size_ident] at hdepth
  have hcolon : EndsPattern
      (.punct ':' .alone ::
        (type ++ .punct '=' .alone :: (value ++ .punct ';' .alone :: rest))) := by
    constructor <;> simp
  have hassignment : EndsType (.punct '=' .alone :: (value ++ .punct ';' .alone :: rest)) := by
    constructor <;> simp
  obtain ⟨bound, hbound⟩ := hpattern.reads.run depth _ (by omega) hcolon
  obtain ⟨declared, hdeclared⟩ := (htype true).run depth _ (by omega) hassignment
  obtain ⟨node, hnode⟩ := hvalue.run depth (.punct ';' .alone :: rest) (by omega)
    (endsExpression_punct (.inr rfl) rest)
  refine ⟨.binding (.joined bound ": " declared) (some node) none, ?_, rfl⟩
  simp only [Code.statement, word, mark, List.append_assoc, List.cons_append, List.nil_append]
  refine statement_of_binding ?_
  cases hbrace : node.endsInBrace <;> simp [binding, hbound, hdeclared, hnode, hbrace]

theorem IsBody.parts_run (hbody : IsBody code) {depth : Nat}
    (hdepth : 4 * Code.size code + 1 ≤ depth) (allowsAttributes : Bool) (rest : Code) :
    ∃ statements, blockParts (read depth) allowsAttributes (.group .brace code :: rest) =
      .ok (([], statements), rest) := by
  obtain ⟨depth, rfl⟩ := Nat.exists_eq_add_of_le' (by omega : 1 ≤ depth)
  obtain ⟨statements, hstatements⟩ :=
    hbody.block_run (by omega : _ ≤ depth) allowsAttributes rest
  exact ⟨statements, by simp [blockParts, hstatements, -read_succ]⟩

theorem IsCallee.block (hbody : IsBody code) : IsCallee allowsRecord (braces code) := by
  refine .of_atom (startsPlainly_group _ _ _) ?_
  intro depth rest hdepth _
  simp only [braces, Code.size_cons, Code.size_nil, Token.size_group] at hdepth
  obtain ⟨depth, rfl⟩ := Nat.exists_eq_add_of_le' (by omega : 1 ≤ depth)
  obtain ⟨statements, hstatements⟩ := hbody.block_run (by omega : _ ≤ depth) true rest
  refine ⟨.block "" [] statements, rfl, ?_⟩
  simp [braces, atom, atAsyncBlock, atClosure, atPath, hstatements, -read_succ]

theorem IsCallee.asyncBlock (hbody : IsBody code) :
    IsCallee allowsRecord (word "async" ++ braces code) := by
  refine .of_atom (startsPlainly_ident _ _) ?_
  intro depth rest hdepth _
  simp only [word, braces, Code.size_append, Code.size_cons, Code.size_nil, Token.size_group,
    Token.size_ident] at hdepth
  obtain ⟨statements, hstatements⟩ := hbody.parts_run (by omega : _ ≤ depth) false rest
  refine ⟨.keywordBlock "async " [] statements, rfl, ?_⟩
  simp [word, braces, atom, atAsyncBlock, Grammar.asyncBlock, keywordBlock, hstatements]

theorem IsStatement.bindOrElse {pattern object arguments otherwise : Code} {methodName : String}
    (hpattern : IsPattern pattern) (hobject : IsAccess true object)
    (hname : Token.isName methodName = true) (harguments : IsArguments arguments)
    (hotherwise : IsBody otherwise) :
    IsStatement (word "let" ++ pattern ++ mark '=' ++ invoke object methodName arguments ++
      word "else" ++ braces otherwise ++ mark ';') := by
  refine ⟨by simp [word], fun rest => ?_, ?_⟩
  · simpa [word] using @endsStatement_word "let" (by decide) _
  intro depth rest hdepth _
  simp only [word, mark, braces, Code.size_append, Code.size_cons, Code.size_nil,
    Token.size_punct, Token.size_ident, Token.size_group] at hdepth
  obtain ⟨depth, rfl⟩ := Nat.exists_eq_add_of_le' (by omega : 2 ≤ depth)
  have helse : EndsExpression true
      (.ident "else" :: .group .brace otherwise :: .punct ';' .alone :: rest) :=
    endsExpression_word (by decide) _
  obtain ⟨bound, hbound⟩ := hpattern.reads.run (depth + 2) _ (by omega)
    (endsPattern_assignment (invoke object methodName arguments ++
      .ident "else" :: .group .brace otherwise :: .punct ';' .alone :: rest))
  obtain ⟨receiver, method, nodes, hvalue⟩ := hobject.invoke_whole hname harguments
    (by omega : _ ≤ depth + 2) helse.toEndsOperand
  have hvalue := expression_of_operand hvalue helse
  obtain ⟨statements, hstatements⟩ := hotherwise.parts_run (by omega : _ ≤ depth + 2) false
    (.punct ';' .alone :: rest)
  refine ⟨.binding bound (some (.methodCall receiver method nodes))
    (some (.block "" [] statements)), ?_, rfl⟩
  simp only [word, mark, braces, List.append_assoc, List.cons_append, List.nil_append]
  refine statement_of_binding ?_
  simp [binding, hbound, hvalue, hstatements, Syntax.endsInBrace, -read_succ]

def isBlockLike : Syntax → Bool
  | .conditional .. | .loop .. | .selection .. => true
  | _ => false

/-- The code is an expression that ends in a block of its own, and a statement by itself. -/
structure IsBlockLike (code : Code) : Prop where
  head : ∃ text tail, code = .ident text :: tail ∧ text ∈ ["if", "loop", "match"]
  run : ∀ depth rest, 4 * Code.size code ≤ depth + 2 → rest.atWord "else" = false →
    ∃ node, isBlockLike node = true ∧ atom (read depth) true (code ++ rest) = .ok (node, rest)

theorem IsBlockLike.isStatement (hcode : IsBlockLike code) : IsStatement code := by
  obtain ⟨text, tail, rfl, htext⟩ := hcode.head
  have hword : ¬ text = "else" := by rintro rfl; simp at htext
  refine ⟨by simp, fun rest => endsStatement_word hword _, ?_⟩
  intro depth rest hdepth hrest
  simp only [Code.size_cons, Token.size_ident] at hdepth
  obtain ⟨depth, rfl⟩ := Nat.exists_eq_add_of_le' (by omega : 1 ≤ depth)
  obtain ⟨node, hnode, hatom⟩ := hcode.run depth rest
    (by simp only [Code.size_cons, Token.size_ident]; omega) hrest.otherwise
  have hattached : attachLeft [] node = node ∧ isMacro node = false ∧
      node.endsStatementWithSemicolon = false := by
    cases node <;> simp [isBlockLike] at hnode <;> exact ⟨rfl, rfl, rfl⟩
  obtain ⟨hattached, hmacro, hsemicolon⟩ := hattached
  simp only [List.cons_append] at hatom ⊢
  have harm : read (depth + 1) .arm (.ident text :: (tail ++ rest)) = .ok (node, rest) := by
    have hblock : atBlockLike (.ident text :: (tail ++ rest)) = true := by
      simp only [List.mem_cons, List.not_mem_nil, or_false] at htext
      rcases htext with rfl | rfl | rfl <;> simp [atBlockLike]
    change armBody (read depth) _ = _
    simp [armBody, outerAttributes_none, hblock, hatom, hrest.point, hrest.attempt]
  refine ⟨.statement node false, ?_, hsemicolon⟩
  have hstatement : Grammar.statement (read (depth + 1)) (.ident text :: (tail ++ rest)) =
      expressionStatement (read (depth + 1)) [] (.ident text :: (tail ++ rest)) := by
    have hmacro : macroUse (.ident text :: (tail ++ rest)) = .none := by
      refine macroUse_keyword ?_
      simp only [List.mem_cons, List.not_mem_nil, or_false] at htext
      rcases htext with rfl | rfl | rfl <;> simp [Token.isName, Token.keywords]
    simp only [List.mem_cons, List.not_mem_nil, or_false] at htext
    rcases htext with rfl | rfl | rfl <;>
      simp [Grammar.statement, outerAttributes_none, hmacro, atItem]
  rw [hstatement]
  simp [expressionStatement, harm, hattached, hmacro, hrest.semicolon, -read_succ]

theorem IsBlockLike.when {condition body : Code} (hcondition : IsExpression false condition)
    (hbody : IsBody body) : IsBlockLike (when condition body) := by
  refine ⟨⟨"if", condition ++ braces body, by simp [Code.when, word], by simp⟩, ?_⟩
  intro depth rest hdepth hrest
  simp only [Code.when, word, braces, Code.size_append, Code.size_cons, Code.size_nil,
    Token.size_ident, Token.size_group] at hdepth
  obtain ⟨node, hnode⟩ := hcondition.run depth (.group .brace body :: rest) (by omega)
    (endsExpression_brace body rest)
  obtain ⟨statements, hstatements⟩ := hbody.parts_run (by omega : _ ≤ depth) false rest
  refine ⟨.conditional node statements none, rfl, ?_⟩
  simp [Code.when, word, braces, atom, atAsyncBlock, atClosure, atPath, Token.isName,
    Token.keywords, conditional, hnode, hstatements, otherwises, hrest]

theorem IsBlockLike.whenElse {condition body otherwise : Code}
    (hcondition : IsExpression false condition) (hbody : IsBody body)
    (hotherwise : IsBody otherwise) :
    IsBlockLike (Code.when condition body ++ word "else" ++ braces otherwise) := by
  refine ⟨⟨"if", condition ++ braces body ++ word "else" ++ braces otherwise,
    by simp [Code.when, word], by simp⟩, ?_⟩
  intro depth rest hdepth hrest
  simp only [Code.when, word, braces, Code.size_append, Code.size_cons, Code.size_nil,
    Token.size_ident, Token.size_group] at hdepth
  obtain ⟨node, hnode⟩ := hcondition.run depth
    (.group .brace body :: .ident "else" :: .group .brace otherwise :: rest) (by omega)
    (endsExpression_brace body _)
  obtain ⟨statements, hstatements⟩ := hbody.parts_run (by omega : _ ≤ depth) false
    (.ident "else" :: .group .brace otherwise :: rest)
  obtain ⟨others, hothers⟩ := hotherwise.parts_run (by omega : _ ≤ depth) false rest
  refine ⟨.conditional node statements (some (.otherwise none others none)), rfl, ?_⟩
  simp [Code.when, word, braces, atom, atAsyncBlock, atClosure, atPath, Token.isName,
    Token.keywords, conditional, hnode, hstatements, otherwises, hothers]

theorem IsBlockLike.loop (hbody : IsBody code) : IsBlockLike (loop code) := by
  refine ⟨⟨"loop", braces code, by simp [Code.loop, word], by simp⟩, ?_⟩
  intro depth rest hdepth _
  simp only [Code.loop, word, braces, Code.size_append, Code.size_cons, Code.size_nil,
    Token.size_ident, Token.size_group] at hdepth
  obtain ⟨statements, hstatements⟩ := hbody.parts_run (by omega : _ ≤ depth) true rest
  refine ⟨.loop "" [] statements, rfl, ?_⟩
  simp [Code.loop, word, braces, atom, atAsyncBlock, atClosure, atPath, Token.isName,
    Token.keywords, endlessLoop, hstatements]

end ProviderForge.Grammar

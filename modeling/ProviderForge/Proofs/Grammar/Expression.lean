import ProviderForge.Proofs.Grammar.Operand

namespace ProviderForge.Grammar

open Code Result

variable {allowsRecord : Bool} {code : Code}

theorem IsOperand.operand_run (hoperand : IsOperand allowsRecord code) {depth : Nat} {rest : Code}
    (hdepth : 4 * Code.size code ≤ depth + 1) (hrest : EndsOperand allowsRecord rest) :
    ∃ node, read depth (.operand allowsRecord) (code ++ rest) = .ok (node, rest) :=
  hoperand.run (depth + 1) rest hdepth hrest

theorem operation_none {rest : Code} (hrest : EndsExpression allowsRecord rest) (depth : Nat)
    (left : Syntax) (least : Nat) :
    read (depth + 1) (.operation allowsRecord left least) rest = .ok (left, rest) := by
  simp [step, operation, operations, hrest.operator, hrest.assignment, hrest.range, hrest.cast]

theorem expression_of_operand {depth : Nat} {rest : Code} {node : Syntax}
    (hoperand : read (depth + 1) (.operand allowsRecord) (code ++ rest) = .ok (node, rest))
    (hrest : EndsExpression allowsRecord rest) :
    read (depth + 2) (.expression allowsRecord) (code ++ rest) = .ok (node, rest) := by
  change expression (read (depth + 1)) allowsRecord (code ++ rest) = _
  rw [expression, Parser.bind_run, hoperand, ok_bind]
  exact operation_none hrest depth node loosest

theorem IsOperand.isExpression (hoperand : IsOperand allowsRecord code) :
    IsExpression allowsRecord code := by
  refine ⟨hoperand.nonempty, ?_⟩
  intro depth rest hdepth hrest
  have hpositive := Code.size_pos hoperand.nonempty
  obtain ⟨depth, rfl⟩ := Nat.exists_eq_add_of_le' (by omega : 2 ≤ depth)
  obtain ⟨node, hnode⟩ := hoperand.operand_run (by omega : _ ≤ depth + 1 + 1) hrest.toEndsOperand
  exact ⟨node, expression_of_operand hnode hrest⟩

theorem IsAccess.isExpression (haccess : IsAccess allowsRecord code) :
    IsExpression allowsRecord code :=
  haccess.isOperand.isExpression

theorem IsCallee.isOperand (hcallee : IsCallee allowsRecord code) : IsOperand allowsRecord code :=
  hcallee.isAccess.isOperand

theorem IsCallee.isExpression (hcallee : IsCallee allowsRecord code) :
    IsExpression allowsRecord code :=
  hcallee.isAccess.isExpression

theorem IsOperand.reference (hoperand : IsOperand allowsRecord code) (hhead : IsReferable code) :
    IsOperand allowsRecord (reference code) := by
  refine ⟨by simp [Code.reference, mark], ?_⟩
  intro depth rest hdepth hrest
  simp only [Code.reference, mark, Code.size_append, Code.size_cons, Code.size_nil,
    Token.size_punct] at hdepth
  obtain ⟨depth, rfl⟩ := Nat.exists_eq_add_of_le' (by omega : 2 ≤ depth)
  obtain ⟨node, hnode⟩ := hoperand.operand_run (by omega : _ ≤ depth + 1) hrest
  refine ⟨.prefixed "&" node, ?_⟩
  change operand (read depth) allowsRecord _ = _
  rcases hhead with ⟨text, tail, rfl, hmutable, hraw⟩ | ⟨delimiter, content, tail, rfl⟩
  · simp only [List.cons_append] at hnode
    simp [Code.reference, mark, operand, outerAttributes_none, referenceMark, hmutable, hraw, hnode]
  · simp only [List.cons_append] at hnode
    simp [Code.reference, mark, operand, outerAttributes_none, referenceMark, hnode]

theorem IsOperand.mutableReference (hoperand : IsOperand allowsRecord code) :
    IsOperand allowsRecord (mutableReference code) := by
  refine ⟨by simp [Code.mutableReference, mark], ?_⟩
  intro depth rest hdepth hrest
  simp only [Code.mutableReference, word, mark, Code.size_append, Code.size_cons, Code.size_nil,
    Token.size_punct, Token.size_ident] at hdepth
  obtain ⟨depth, rfl⟩ := Nat.exists_eq_add_of_le' (by omega : 2 ≤ depth)
  obtain ⟨node, hnode⟩ := hoperand.operand_run (by omega : _ ≤ depth + 1) hrest
  refine ⟨.prefixed "&mut " node, ?_⟩
  change operand (read depth) allowsRecord _ = _
  simp [Code.mutableReference, word, mark, operand, outerAttributes_none, referenceMark, hnode]

theorem IsOperand.negation (hoperand : IsOperand allowsRecord code) :
    IsOperand allowsRecord (mark '!' ++ code) := by
  refine ⟨by simp [mark], ?_⟩
  intro depth rest hdepth hrest
  simp only [mark, Code.size_append, Code.size_cons, Code.size_nil, Token.size_punct] at hdepth
  obtain ⟨depth, rfl⟩ := Nat.exists_eq_add_of_le' (by omega : 2 ≤ depth)
  obtain ⟨node, hnode⟩ := hoperand.operand_run (by omega : _ ≤ depth + 1) hrest
  refine ⟨.prefixed "!" node, ?_⟩
  change operand (read depth) allowsRecord _ = _
  simp [mark, operand, outerAttributes_none, hnode]

theorem levelAt_none {rest : Code} (hrest : EndsExpression allowsRecord rest) :
    levelAt rest = loosest := by
  simp [levelAt, hrest.operator, hrest.assignment, hrest.range, hrest.cast]

theorem rightOperand_run {right : Code} (hright : IsOperand allowsRecord right) {depth : Nat}
    {rest : Code} (hdepth : 4 * Code.size right ≤ depth + 1)
    (hrest : EndsExpression allowsRecord rest) {level : Nat} (hlevel : loosest < level) :
    ∃ node, rightOperand (read depth) allowsRecord level (right ++ rest) = .ok (node, rest) := by
  obtain ⟨node, hnode⟩ := hright.operand_run hdepth hrest.toEndsOperand
  refine ⟨node, ?_⟩
  have hstop : ¬ (loosest > level) := by omega
  have hother : ¬ loosest = level := by omega
  simp [rightOperand, hnode, strengthen, levelAt_none hrest, hstop, hother]

theorem IsAccess.invoke_whole {methodName : String} {arguments : Code}
    (hobject : IsAccess allowsRecord code) (hname : Token.isName methodName = true)
    (harguments : IsArguments arguments) {depth : Nat} {rest : Code}
    (hdepth : 4 * Code.size (Code.invoke code methodName arguments) ≤ depth + 2)
    (hrest : EndsOperand allowsRecord rest) :
    ∃ receiver method nodes, read (depth + 1) (.operand allowsRecord)
      (Code.invoke code methodName arguments ++ rest) =
        .ok (.methodCall receiver method nodes, rest) := by
  obtain ⟨receiver, method, nodes, fuel, -, hrun⟩ := hobject.invoke_run hname harguments hdepth
  refine ⟨receiver, method, nodes, ?_⟩
  change operand (read depth) allowsRecord _ = _
  rw [hrun]
  exact trailers_none hrest

theorem IsExpression.comparison {first : Char} (hfirst : first = '!' ∨ first = '=')
    {methodName : String} {arguments right : Code} (hobject : IsAccess allowsRecord code)
    (hname : Token.isName methodName = true) (harguments : IsArguments arguments)
    (hright : IsOperand allowsRecord right) :
    IsExpression allowsRecord
      (invoke code methodName arguments ++ operator first '=' ++ right) := by
  refine ⟨by simp [operator], ?_⟩
  intro depth rest hdepth hrest
  simp only [operator, Code.size_append, Code.size_cons, Code.size_nil, Token.size_punct] at hdepth
  obtain ⟨depth, rfl⟩ := Nat.exists_eq_add_of_le' (by omega : 2 ≤ depth)
  have hends : EndsOperand allowsRecord
      (.punct first .joint :: .punct '=' .alone :: (right ++ rest)) := by
    rcases hfirst with rfl | rfl <;>
      refine ⟨⟨⟨?_, ?_, ?_⟩, ?_⟩, ?_, ?_, ?_⟩ <;> simp
  obtain ⟨receiver, method, nodes, hleft⟩ := hobject.invoke_whole hname harguments
    (by omega : _ ≤ depth + 2) hends
  obtain ⟨node, hnode⟩ := rightOperand_run hright (by omega : _ ≤ depth + 1) hrest
    (by decide : loosest < comparisonLevel)
  refine ⟨.binary (.methodCall receiver method nodes) (String.ofList [first, '=']) node, ?_⟩
  change expression (read (depth + 1)) allowsRecord _ = _
  simp only [operator, List.append_assoc, List.cons_append, List.nil_append]
  rw [expression, Parser.bind_run, hleft, ok_bind]
  change operation (read depth) allowsRecord _ loosest _ = _
  have hoperator : operatorAt? (.punct first .joint :: .punct '=' .alone :: (right ++ rest)) =
      some ([first, '='], comparisonLevel) := by
    rcases hfirst with rfl | rfl <;> simp [operatorAt?, operators, comparisonLevel]
  simp [operation, operations, isRange, hoperator, isComparison, loosest, hnode, hrest.operator,
    hrest.assignment, hrest.range, hrest.cast]

theorem IsExpression.binder {pattern : Code} (hpattern : IsPattern pattern)
    (hvalue : IsOperand allowsRecord code) :
    IsExpression allowsRecord (word "let" ++ pattern ++ mark '=' ++ code) := by
  refine ⟨by simp [word], ?_⟩
  intro depth rest hdepth hrest
  simp only [word, mark, Code.size_append, Code.size_cons, Code.size_nil, Token.size_punct,
    Token.size_ident] at hdepth
  obtain ⟨depth, rfl⟩ := Nat.exists_eq_add_of_le' (by omega : 3 ≤ depth)
  have hends : EndsAlternatives (.punct '=' .alone :: (code ++ rest)) := by
    refine ⟨⟨?_, ?_, ?_, ?_, ?_, ?_⟩, ?_⟩ <;> simp
  obtain ⟨bound, hbound⟩ := hpattern.alternatives.run (depth + 1)
    (.punct '=' .alone :: (code ++ rest)) (by omega) hends
  obtain ⟨node, hnode⟩ := hvalue.operand_run (by omega : _ ≤ depth + 1 + 1) hrest.toEndsOperand
  have hplain : StartsPlainly (word "let" ++ pattern ++ mark '=' ++ code) :=
    startsPlainly_ident "let" _
  refine ⟨.binder bound node, expression_of_operand ?_ hrest⟩
  refine operand_of_whole_atom hplain ?_ hrest.toEndsOperand
  have hoperation := operation_none hrest depth node comparisonLevel
  simp [word, mark, atom, atAsyncBlock, atClosure, atPath, Token.isName, Token.keywords,
    Grammar.binder, hbound, hnode, hoperation, -read_succ]

end ProviderForge.Grammar

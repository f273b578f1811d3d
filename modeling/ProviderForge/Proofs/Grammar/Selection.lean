import ProviderForge.Proofs.Grammar.Control

namespace ProviderForge.Grammar

open Code Result

variable {allowsRecord : Bool} {pattern body : Code}

/-- What may stand behind an arm: nothing that would belong to it. -/
structure EndsArm (rest : Code) : Prop where
  comma : rest.atMark [','] = false
  point : rest.atPoint = false
  attempt : rest.atMark ['?'] = false
  hash : rest.atMark ['#'] = false

theorem endsArm_nil : EndsArm [] := by
  constructor <;> rfl

theorem StartsPlainly.endsArm {code : Code} (hplain : StartsPlainly code) (rest : Code) :
    EndsArm (code ++ rest) := by
  have hpoint : (code ++ rest).atPoint = false := by
    simp [Code.atPoint, hplain.atMark]
  exact ⟨hplain.atMark _ _ _, hpoint, hplain.atMark _ _ _, hplain.atMark _ _ _⟩

def IsArms (code : Code) : Prop :=
  IsSequence (fun depth => selectionArm (read depth)) EndsArm code

theorem IsArms.of_reads {code : Code} (hplain : StartsPlainly code)
    (hreads : Reads (fun depth => selectionArm (read depth)) EndsArm code) : IsArms code :=
  .single hreads hplain.endsArm

theorem endsAlternatives_fatArrow (rest : Code) :
    EndsAlternatives (.punct '=' .joint :: .punct '>' .alone :: rest) := by
  refine ⟨⟨?_, ?_, ?_, ?_, ?_, ?_⟩, ?_⟩ <;> simp

theorem IsArms.arm (hpattern : IsPattern pattern) (hbody : IsSentence body) :
    IsArms (arm pattern body) := by
  refine .of_reads (by simpa [Code.arm] using hpattern.plain.append _)
    ⟨by simp [Code.arm, mark], ?_⟩
  intro depth rest hdepth hrest
  simp only [Code.arm, fatArrow, operator, mark, Code.size_append, Code.size_cons, Code.size_nil,
    Token.size_punct] at hdepth
  obtain ⟨bound, hbound⟩ := hpattern.alternatives.run depth _ (by omega)
    (endsAlternatives_fatArrow (body ++ .punct ',' .alone :: rest))
  obtain ⟨node, hnode⟩ := hbody.reads.run depth (.punct ',' .alone :: rest) (by omega)
    (endsSentence_punct (.inl rfl) rest)
  refine ⟨armOf bound none node, ?_⟩
  have hhash := hpattern.plain.atMark '#' []
    (.punct '=' .joint :: .punct '>' .alone :: (body ++ .punct ',' .alone :: rest))
  simp only [Code.arm, fatArrow, operator, mark, List.append_assoc, List.cons_append,
    List.nil_append]
  cases hcomma : node.endsArmWithComma <;>
    simp [selectionArm, outerAttributes_none hhash, hbound, hnode, hcomma]

theorem IsArms.guarded {condition : Code} (hpattern : IsPattern pattern)
    (hcondition : IsExpression true condition) (hbody : IsSentence body) :
    IsArms (Code.arm (pattern ++ word "if" ++ condition) body) := by
  refine .of_reads (by simpa [Code.arm] using hpattern.plain.append _)
    ⟨by simp [Code.arm, mark], ?_⟩
  intro depth rest hdepth hrest
  simp only [Code.arm, fatArrow, operator, word, mark, Code.size_append, Code.size_cons,
    Code.size_nil, Token.size_punct, Token.size_ident] at hdepth
  have hends : EndsAlternatives (.ident "if" :: (condition ++ .punct '=' .joint ::
      .punct '>' .alone :: (body ++ .punct ',' .alone :: rest))) := by
    refine ⟨⟨?_, ?_, ?_, ?_, ?_, ?_⟩, ?_⟩ <;> simp
  obtain ⟨bound, hbound⟩ := hpattern.alternatives.run depth _ (by omega) hends
  obtain ⟨test, htest⟩ := hcondition.run depth _ (by omega)
    (endsExpression_fatArrow (body ++ .punct ',' .alone :: rest))
  obtain ⟨node, hnode⟩ := hbody.reads.run depth (.punct ',' .alone :: rest) (by omega)
    (endsSentence_punct (.inl rfl) rest)
  refine ⟨armOf bound (some test) node, ?_⟩
  have hhash := hpattern.plain.atMark '#' [] (.ident "if" :: (condition ++ .punct '=' .joint ::
      .punct '>' .alone :: (body ++ .punct ',' .alone :: rest)))
  simp only [Code.arm, fatArrow, operator, word, mark, List.append_assoc, List.cons_append,
    List.nil_append]
  cases hcomma : node.endsArmWithComma <;>
    simp [selectionArm, outerAttributes_none hhash, hbound, htest, hnode, hcomma]

theorem IsArms.armBlock (hpattern : IsPattern pattern) (hbody : IsBody body) :
    IsArms (armBlock pattern body) := by
  refine .of_reads (by simpa [Code.armBlock] using hpattern.plain.append _)
    ⟨by simp [Code.armBlock, braces], ?_⟩
  intro depth rest hdepth hrest
  simp only [Code.armBlock, fatArrow, operator, braces, Code.size_append, Code.size_cons,
    Code.size_nil, Token.size_punct, Token.size_group] at hdepth
  obtain ⟨depth, rfl⟩ := Nat.exists_eq_add_of_le' (by omega : 2 ≤ depth)
  obtain ⟨bound, hbound⟩ := hpattern.alternatives.run (depth + 2) _ (by omega)
    (endsAlternatives_fatArrow (.group .brace body :: rest))
  obtain ⟨statements, hstatements⟩ := hbody.block_run (by omega : _ ≤ depth) true rest
  refine ⟨armOf bound none (.block "" [] statements), ?_⟩
  have harm : read (depth + 2) .arm (.group .brace body :: rest) =
      .ok (.block "" [] statements, rest) := by
    change armBody (read (depth + 1)) _ = _
    simp [armBody, outerAttributes_none, atBlockLike, atom, atAsyncBlock, atClosure, atPath,
      hstatements, hrest.point, hrest.attempt, -read_succ]
  have hhash := hpattern.plain.atMark '#' []
    (.punct '=' .joint :: .punct '>' .alone :: .group .brace body :: rest)
  simp only [Code.armBlock, fatArrow, operator, braces, List.append_assoc, List.cons_append,
    List.nil_append]
  simp [selectionArm, outerAttributes_none hhash, hbound, harm, Syntax.endsArmWithComma,
    hrest.comma, -read_succ]

theorem choose_run {scrutinee arms : Code} (hscrutinee : IsExpression false scrutinee)
    (harms : IsArms arms) {depth : Nat} (hdepth : 4 * Code.size (choose scrutinee arms) ≤ depth + 2)
    (rest : Code) : ∃ node nodes, atom (read depth) allowsRecord (choose scrutinee arms ++ rest) =
      .ok (.selection node [] nodes, rest) := by
  simp only [choose, word, braces, Code.size_append, Code.size_cons, Code.size_nil,
    Token.size_ident, Token.size_group] at hdepth
  obtain ⟨node, hnode⟩ := hscrutinee.run depth (.group .brace arms :: rest) (by omega)
    (endsExpression_brace arms rest)
  obtain ⟨nodes, hnodes⟩ := harms.many_run endsArm_nil (by omega : _ ≤ depth)
  have hhash := (harms.ends_of endsArm_nil).hash
  refine ⟨node, nodes, ?_⟩
  simp [choose, word, braces, atom, atAsyncBlock, atClosure, atPath, Token.isName, Token.keywords,
    selection, hnode, selectionContent, innerAttributes_none hhash, hnodes]

theorem IsBlockLike.choose {scrutinee arms : Code} (hscrutinee : IsExpression false scrutinee)
    (harms : IsArms arms) : IsBlockLike (choose scrutinee arms) := by
  refine ⟨⟨"match", scrutinee ++ braces arms, by simp [Code.choose, word], by simp⟩, ?_⟩
  intro depth rest hdepth _
  obtain ⟨node, nodes, hrun⟩ := choose_run hscrutinee harms hdepth rest
  exact ⟨_, rfl, hrun⟩

theorem IsCallee.choose {scrutinee arms : Code} (hscrutinee : IsExpression false scrutinee)
    (harms : IsArms arms) : IsCallee allowsRecord (choose scrutinee arms) := by
  refine .of_atom (by simpa [Code.choose, word] using startsPlainly_ident _ _) ?_
  intro depth rest hdepth _
  obtain ⟨node, nodes, hrun⟩ := choose_run hscrutinee harms hdepth rest
  exact ⟨_, rfl, hrun⟩

theorem IsExpression.of_closure {code : Code} {spacing : Spacing} {tail : Code}
    (hhead : code = .punct '|' spacing :: tail)
    (hclosure : ∀ depth rest, 4 * Code.size code ≤ depth + 2 → EndsExpression allowsRecord rest →
      ∃ node, closure (read depth) allowsRecord (code ++ rest) = .ok (node, rest)) :
    IsExpression allowsRecord code := by
  subst hhead
  refine ⟨by simp, ?_⟩
  intro depth rest hdepth hrest
  have hpositive : 2 ≤ depth := by
    simp only [Code.size_cons, Token.size_punct] at hdepth
    omega
  obtain ⟨depth, rfl⟩ := Nat.exists_eq_add_of_le' hpositive
  obtain ⟨node, hnode⟩ := hclosure depth rest (by omega) hrest
  refine ⟨node, expression_of_operand ?_ hrest⟩
  change operand (read depth) allowsRecord _ = _
  simp only [List.cons_append] at hnode ⊢
  simp [operand, outerAttributes_none, withTrailers, atom, atAsyncBlock, atClosure, hnode,
    trailers_none hrest.toEndsOperand]

theorem IsExpression.closure {parameter : String} (hname : Token.isName parameter = true)
    (hplain : StartsPlainly body) (hbody : IsExpression allowsRecord body) :
    IsExpression allowsRecord (Code.closure (word parameter) body) := by
  refine .of_closure rfl ?_
  intro depth rest hdepth hrest
  simp only [Code.closure, word, mark, Code.size_append, Code.size_cons, Code.size_nil,
    Token.size_ident, Token.size_punct] at hdepth
  have hends : EndsPattern (.punct '|' .alone :: (body ++ rest)) := by
    constructor <;> simp
  obtain ⟨bound, hbound⟩ := (IsPattern.name hname).reads.run depth _
    (by simp only [word, Code.size_cons, Code.size_nil, Token.size_ident]; omega) hends
  obtain ⟨node, hnode⟩ := hbody.run depth rest (by omega) hrest
  refine ⟨.closure "" [bound] none node, ?_⟩
  simp only [word, List.cons_append, List.nil_append] at hbound
  simp [Code.closure, word, mark, Grammar.closure, quantifier, Parser.list, Parser.repeatedList,
    closureInput, outerAttributes_none, hbound, output, hplain.atMark, hnode, Syntax.withQuantifier]

theorem IsExpression.thunk (hplain : StartsPlainly body) (hbody : IsExpression allowsRecord body) :
    IsExpression allowsRecord (operator '|' '|' ++ body) := by
  refine .of_closure (rfl : _ = Token.punct '|' .joint :: .punct '|' .alone :: body) ?_
  intro depth rest hdepth hrest
  simp only [operator, Code.size_append, Code.size_cons, Code.size_nil, Token.size_punct] at hdepth
  obtain ⟨node, hnode⟩ := hbody.run depth rest (by omega) hrest
  refine ⟨.closure "" [] none node, ?_⟩
  simp [operator, Grammar.closure, quantifier, Parser.list, Parser.repeatedList, output,
    hplain.atMark, hnode, Syntax.withQuantifier]

end ProviderForge.Grammar

import ProviderForge.Proofs.Grammar.Pattern

namespace ProviderForge.Grammar

open Code Result

structure EndsCallee (allowsRecord : Bool) (rest : Code) : Prop where
  segment : rest.atMark [':', ':'] = false
  bang : rest.atBang = false
  record : allowsRecord = true → rest.atGroup .brace = false

/-- What may stand behind an access: a call would make it a method. -/
structure EndsAccess (allowsRecord : Bool) (rest : Code) : Prop
    extends EndsCallee allowsRecord rest where
  call : rest.atGroup .parenthesis = false

structure EndsOperand (allowsRecord : Bool) (rest : Code) : Prop
    extends EndsAccess allowsRecord rest where
  index : rest.atGroup .bracket = false
  point : rest.atPoint = false
  attempt : rest.atMark ['?'] = false

structure EndsExpression (allowsRecord : Bool) (rest : Code) : Prop
    extends EndsOperand allowsRecord rest where
  operator : operatorAt? rest = none
  assignment : atAssignment rest = false
  range : rest.atMark ['.', '.'] = false
  cast : rest.atWord "as" = false

/-- The beginning of an operand, which goes on with the accesses and calls behind it. -/
structure IsChain (ends : Code → Prop) (allowsRecord : Bool) (code : Code) : Prop where
  plain : StartsPlainly code
  run : ∀ depth rest, 4 * Code.size code ≤ depth + 2 → ends rest → ∃ base fuel,
    isRange base = false ∧ rest.length < fuel ∧
      operand (read depth) allowsRecord (code ++ rest) = trailers (read depth) base fuel rest

def IsCallee (allowsRecord : Bool) (code : Code) : Prop :=
  IsChain (EndsCallee allowsRecord) allowsRecord code

def IsAccess (allowsRecord : Bool) (code : Code) : Prop :=
  IsChain (EndsAccess allowsRecord) allowsRecord code

def IsOperand (allowsRecord : Bool) (code : Code) : Prop :=
  Reads (fun depth => read (depth - 1) (.operand allowsRecord)) (EndsOperand allowsRecord) code

def IsExpression (allowsRecord : Bool) (code : Code) : Prop :=
  Reads (fun depth => read depth (.expression allowsRecord)) (EndsExpression allowsRecord) code

variable {allowsRecord : Bool} {code : Code}

theorem IsCallee.isAccess (hcallee : IsCallee allowsRecord code) : IsAccess allowsRecord code :=
  ⟨hcallee.plain, fun depth rest hdepth hrest => hcallee.run depth rest hdepth hrest.toEndsCallee⟩

theorem operand_of_atom {rules : Reader} {rest : Code} {base : Syntax}
    (hplain : StartsPlainly code)
    (hatom : atom rules allowsRecord (code ++ rest) = .ok (base, rest)) :
    operand rules allowsRecord (code ++ rest) = trailers rules base (rest.length + 1) rest := by
  obtain ⟨token, tail, rfl, htoken⟩ := hplain
  simp only [List.cons_append] at hatom ⊢
  cases token with
  | punct character spacing => exact absurd rfl (htoken character spacing)
  | ident text =>
      simp [operand, outerAttributes_none, hatom, withTrailers]
  | literal text =>
      simp [operand, outerAttributes_none, hatom, withTrailers]
  | group delimiter content =>
      simp [operand, outerAttributes_none, hatom, withTrailers]

theorem trailers_none {rules : Reader} {base : Syntax} {fuel : Nat} {rest : Code}
    (hrest : EndsOperand allowsRecord rest) :
    trailers rules base fuel rest = .ok (base, rest) := by
  cases fuel with
  | zero => rfl
  | succ fuel =>
      simp [trailers, hrest.call, hrest.point, hrest.index, hrest.attempt]

theorem operand_of_whole_atom {rules : Reader} {rest : Code} {base : Syntax}
    (hplain : StartsPlainly code)
    (hatom : atom rules allowsRecord (code ++ rest) = .ok (base, rest))
    (hrest : EndsOperand allowsRecord rest) :
    operand rules allowsRecord (code ++ rest) = .ok (base, rest) :=
  (operand_of_atom hplain hatom).trans (trailers_none hrest)

theorem IsAccess.isOperand (haccess : IsAccess allowsRecord code) :
    IsOperand allowsRecord code := by
  obtain ⟨token, tail, rfl, htoken⟩ := haccess.plain
  refine ⟨by simp, ?_⟩
  intro depth rest hdepth hrest
  have hpositive := token.size_pos
  simp only [Code.size_cons] at hdepth
  obtain ⟨depth, rfl⟩ := Nat.exists_eq_add_of_le' (by omega : 2 ≤ depth)
  obtain ⟨base, fuel, -, -, hbase⟩ := haccess.run depth rest
    (by simp only [Code.size_cons]; omega) hrest.toEndsAccess
  refine ⟨base, ?_⟩
  change operand (read depth) allowsRecord (token :: tail ++ rest) = _
  rw [hbase]
  exact trailers_none hrest

theorem IsCallee.of_atom (hplain : StartsPlainly code)
    (hatom : ∀ depth rest, 4 * Code.size code ≤ depth + 2 → EndsCallee allowsRecord rest →
      ∃ base, isRange base = false ∧
        atom (read depth) allowsRecord (code ++ rest) = .ok (base, rest)) :
    IsCallee allowsRecord code := by
  refine ⟨hplain, ?_⟩
  intro depth rest hdepth hrest
  obtain ⟨base, hrange, hbase⟩ := hatom depth rest hdepth hrest
  exact ⟨base, rest.length + 1, hrange, Nat.lt_succ_self _, operand_of_atom hplain hbase⟩

theorem atom_of_pathWord {rules : Reader} {text : String} (hword : Token.IsPathWord text)
    (rest : Code) : atom rules allowsRecord (.ident text :: rest) =
      namedExpression rules allowsRecord (.ident text :: rest) := by
  have hne := hword.ne
  simp only [Token.nonPathWords, List.forall_mem_cons] at hne
  have hstart := hword.atPathStart rest
  simp [atom, atAsyncBlock, atClosure, atPath, hne, hstart, -Code.atPathStart_cons]

theorem IsCallee.path (hpath : IsPath true code) : IsCallee allowsRecord code := by
  obtain ⟨text, tail, rfl, hword⟩ := hpath.head
  refine .of_atom (startsPlainly_ident text tail) ?_
  intro depth rest hdepth hrest
  obtain ⟨names, hnames⟩ := hpath.run hdepth ⟨by simp, hrest.segment⟩
  refine ⟨.path false names, rfl, ?_⟩
  simp only [List.cons_append] at hnames ⊢
  rw [atom_of_pathWord hword]
  simp only [namedExpression, Parser.bind_run, hnames, ok_bind, Parser.get_run]
  cases allowsRecord with
  | false => simp [hrest.bang]
  | true => simp [hrest.bang, hrest.record rfl]

theorem IsCallee.literal (text : String) : IsCallee allowsRecord [.literal text] := by
  refine .of_atom ⟨.literal text, [], rfl, by simp⟩ ?_
  intro depth rest _ _
  exact ⟨.literal text, rfl, by simp [atom, Parser.literal]⟩

theorem endsExpression_nil : EndsExpression allowsRecord [] :=
  ⟨⟨⟨⟨rfl, rfl, fun _ => rfl⟩, rfl⟩, rfl, rfl, rfl⟩, rfl, rfl, rfl, rfl⟩

theorem endsExpression_punct {character : Char} (hcharacter : character = ',' ∨ character = ';')
    (rest : Code) : EndsExpression allowsRecord (.punct character .alone :: rest) := by
  rcases hcharacter with rfl | rfl <;>
    refine ⟨⟨⟨⟨?_, ?_, ?_⟩, ?_⟩, ?_, ?_, ?_⟩, ?_, ?_, ?_, ?_⟩ <;>
    simp [operatorAt?, operators, atAssignment]

theorem endsExpression_comma (rest : Code) :
    EndsExpression allowsRecord (.punct ',' .alone :: rest) :=
  endsExpression_punct (.inl rfl) rest

/-- Arguments of a call, and elements of an array. -/
def IsArguments (code : Code) : Prop :=
  IsListing (IsExpression true) code

theorem IsArguments.run (harguments : IsArguments code) {depth : Nat}
    (hdepth : 4 * Code.size code ≤ depth) :
    ∃ nodes, Parser.commaList (read depth (.expression true)) code = .ok (nodes, []) :=
  commaList_run harguments endsExpression_nil endsExpression_comma hdepth

theorem endsCallee_call (content rest : Code) :
    EndsCallee allowsRecord (.group .parenthesis content :: rest) :=
  ⟨by simp, by simp, by simp⟩

theorem endsAccess_point (rest : Code) :
    EndsAccess allowsRecord (.punct '.' .alone :: rest) :=
  ⟨⟨by simp, by simp, by simp⟩, by simp⟩

theorem StartsPlainly.append (hplain : StartsPlainly code) (later : Code) :
    StartsPlainly (code ++ later) := by
  obtain ⟨token, tail, rfl, htoken⟩ := hplain
  exact ⟨token, tail ++ later, rfl, htoken⟩

theorem IsCallee.call {arguments : Code} (hcallee : IsCallee allowsRecord code)
    (harguments : IsArguments arguments) : IsCallee allowsRecord (call code arguments) := by
  refine ⟨hcallee.plain.append _, ?_⟩
  intro depth rest hdepth hrest
  simp only [Code.call, parens, Code.size_append, Code.size_cons, Code.size_nil,
    Token.size_group] at hdepth
  obtain ⟨base, fuel, hrange, hfuel, hbase⟩ := hcallee.run depth
    (.group .parenthesis arguments :: rest) (by omega) (endsCallee_call arguments rest)
  obtain ⟨nodes, hnodes⟩ := harguments.run (by omega : _ ≤ depth)
  simp only [List.length_cons] at hfuel
  obtain ⟨fuel, rfl⟩ := Nat.exists_eq_add_of_le' (by omega : 1 ≤ fuel)
  refine ⟨.call base nodes, fuel, rfl, by omega, ?_⟩
  simp only [Code.call, parens, List.append_assoc, List.cons_append, List.nil_append]
  rw [hbase, trailers]
  simp [Grammar.arguments, hnodes]

theorem IsAccess.invoke_run {methodName : String} {arguments : Code}
    (hobject : IsAccess allowsRecord code) (hname : Token.isName methodName = true)
    (harguments : IsArguments arguments) {depth : Nat} {rest : Code}
    (hdepth : 4 * Code.size (invoke code methodName arguments) ≤ depth + 2) :
    ∃ receiver method nodes fuel, rest.length < fuel ∧
      operand (read depth) allowsRecord (invoke code methodName arguments ++ rest) =
        trailers (read depth) (.methodCall receiver method nodes) fuel rest := by
  simp only [invoke, Code.call, Code.field, mark, word, parens, Code.size_append, Code.size_cons,
    Code.size_nil, Token.size_group, Token.size_punct, Token.size_ident] at hdepth
  obtain ⟨base, fuel, hrange, hfuel, hbase⟩ := hobject.run depth
    (.punct '.' .alone :: .ident methodName :: .group .parenthesis arguments :: rest) (by omega)
    (endsAccess_point _)
  obtain ⟨nodes, hnodes⟩ := harguments.run (by omega : _ ≤ depth)
  simp only [List.length_cons] at hfuel
  obtain ⟨fuel, rfl⟩ := Nat.exists_eq_add_of_le' (by omega : 1 ≤ fuel)
  have hne := Token.ne_of_isName hname
  simp only [Token.keywords, List.forall_mem_cons] at hne
  refine ⟨base, .segment methodName, nodes, fuel, by omega, ?_⟩
  simp only [invoke, Code.call, Code.field, mark, word, parens, List.append_assoc,
    List.cons_append, List.nil_append]
  rw [hbase, trailers]
  simp [hrange, access, namedAccess, hne, hname, member, Grammar.arguments, hnodes]

theorem IsAccess.invoke {methodName : String} {arguments : Code}
    (hobject : IsAccess allowsRecord code) (hname : Token.isName methodName = true)
    (harguments : IsArguments arguments) :
    IsCallee allowsRecord (invoke code methodName arguments) := by
  refine ⟨by simpa [Code.invoke, Code.call, Code.field] using hobject.plain.append _, ?_⟩
  intro depth rest hdepth hrest
  obtain ⟨receiver, method, nodes, fuel, hfuel, hrun⟩ :=
    hobject.invoke_run hname harguments hdepth
  exact ⟨_, fuel, rfl, hfuel, hrun⟩

theorem IsAccess.field {memberName : String} (hobject : IsAccess allowsRecord code)
    (hname : Token.isName memberName = true) :
    IsAccess allowsRecord (field code (word memberName)) := by
  refine ⟨by simpa [Code.field] using hobject.plain.append _, ?_⟩
  intro depth rest hdepth hrest
  simp only [Code.field, mark, word, Code.size_append, Code.size_cons, Code.size_nil,
    Token.size_punct, Token.size_ident] at hdepth
  obtain ⟨base, fuel, hrange, hfuel, hbase⟩ := hobject.run depth
    (.punct '.' .alone :: .ident memberName :: rest) (by omega) (endsAccess_point _)
  simp only [List.length_cons] at hfuel
  obtain ⟨fuel, rfl⟩ := Nat.exists_eq_add_of_le' (by omega : 1 ≤ fuel)
  have hne := Token.ne_of_isName hname
  simp only [Token.keywords, List.forall_mem_cons] at hne
  refine ⟨.field base memberName, fuel, rfl, by omega, ?_⟩
  simp only [Code.field, mark, word, List.append_assoc, List.cons_append, List.nil_append]
  rw [hbase, trailers]
  simp [hrange, access, namedAccess, hne, hname, member, hrest.segment, hrest.call]

theorem IsAccess.await (hobject : IsAccess allowsRecord code) :
    IsCallee allowsRecord (Code.field code (word "await")) := by
  refine ⟨by simpa [Code.field] using hobject.plain.append _, ?_⟩
  intro depth rest hdepth hrest
  simp only [Code.field, mark, word, Code.size_append, Code.size_cons, Code.size_nil,
    Token.size_punct, Token.size_ident] at hdepth
  obtain ⟨base, fuel, hrange, hfuel, hbase⟩ := hobject.run depth
    (.punct '.' .alone :: .ident "await" :: rest) (by omega) (endsAccess_point _)
  simp only [List.length_cons] at hfuel
  obtain ⟨fuel, rfl⟩ := Nat.exists_eq_add_of_le' (by omega : 1 ≤ fuel)
  refine ⟨.awaited base, fuel, rfl, by omega, ?_⟩
  simp only [Code.field, mark, word, List.append_assoc, List.cons_append, List.nil_append]
  rw [hbase, trailers]
  simp [hrange, access, namedAccess]

theorem IsAccess.attempt (hobject : IsAccess allowsRecord code) :
    IsCallee allowsRecord (code ++ mark '?') := by
  refine ⟨hobject.plain.append _, ?_⟩
  intro depth rest hdepth hrest
  simp only [mark, Code.size_append, Code.size_cons, Code.size_nil, Token.size_punct] at hdepth
  obtain ⟨base, fuel, hrange, hfuel, hbase⟩ := hobject.run depth (.punct '?' .alone :: rest)
    (by omega) ⟨⟨by simp, by simp, by simp⟩, by simp⟩
  simp only [List.length_cons] at hfuel
  obtain ⟨fuel, rfl⟩ := Nat.exists_eq_add_of_le' (by omega : 1 ≤ fuel)
  refine ⟨.attempted base, fuel, rfl, by omega, ?_⟩
  simp only [mark, List.append_assoc, List.cons_append, List.nil_append]
  rw [hbase, trailers]
  simp [hrange]

theorem IsCallee.tuple {first elements : Code} (hfirst : IsExpression true first)
    (helements : IsArguments elements) :
    IsCallee allowsRecord (parens (first ++ mark ',' ++ elements)) := by
  refine .of_atom (startsPlainly_group _ _ _) ?_
  intro depth rest hdepth _
  simp only [parens, mark, Code.size_append, Code.size_cons, Code.size_nil, Token.size_group,
    Token.size_punct] at hdepth
  obtain ⟨node, hnode⟩ := hfirst.run depth (.punct ',' .alone :: elements) (by omega)
    (endsExpression_comma elements)
  obtain ⟨nodes, hnodes⟩ := helements.run (by omega : _ ≤ depth)
  refine ⟨.tuple (node :: nodes) true, rfl, ?_⟩
  simp [parens, mark, atom, atAsyncBlock, atClosure, atPath, parenthesizedExpressions,
    hfirst.nonempty, hnode, hnodes]

theorem IsCallee.array (helements : IsArguments code) :
    IsCallee allowsRecord (brackets code) := by
  refine .of_atom (startsPlainly_group _ _ _) ?_
  intro depth rest hdepth _
  simp only [brackets, Code.size_cons, Code.size_nil, Token.size_group] at hdepth
  have hcontent : ∃ nodes, bracketedExpressions (read depth) code = .ok (.array nodes, []) := by
    obtain ⟨codes, last, rfl, hcodes, hlast⟩ := helements
    cases codes with
    | nil =>
        rcases hlast with rfl | hlast
        · exact ⟨[], by simp [bracketedExpressions]⟩
        · obtain ⟨node, hnode⟩ := hlast.whole endsExpression_nil
            (by simpa using (by omega : 4 * Code.size (terminated [] ++ last) ≤ depth))
          exact ⟨[node], by simp [bracketedExpressions, hlast.nonempty, hnode]⟩
    | cons first codes =>
        obtain ⟨hfirst, hothers⟩ := List.forall_mem_cons.mp hcodes
        simp only [terminated_cons, mark, List.append_assoc, List.cons_append, List.nil_append,
          Code.size_append, Code.size_cons, Token.size_punct] at hdepth ⊢
        obtain ⟨node, hnode⟩ := hfirst.run depth (.punct ',' .alone :: (terminated codes ++ last))
          (by omega) (endsExpression_comma _)
        obtain ⟨nodes, hnodes⟩ := IsArguments.run ⟨codes, last, rfl, hothers, hlast⟩
          (by simp only [Code.size_append]; omega : _ ≤ depth)
        exact ⟨node :: nodes, by simp [bracketedExpressions, hfirst.nonempty, hnode, hnodes]⟩
  obtain ⟨nodes, hnodes⟩ := hcontent
  refine ⟨.array nodes, rfl, ?_⟩
  simp [brackets, atom, atAsyncBlock, atClosure, atPath, hnodes]

theorem IsCallee.macroCall {macroName : String} (hname : Token.isName macroName = true)
    (content : Code) : IsCallee allowsRecord (macroCall macroName content) := by
  refine .of_atom (startsPlainly_ident _ _) ?_
  intro depth rest _ _
  have hword : Token.IsPathWord macroName := .inl hname
  have hne := Token.ne_of_isName hname
  simp only [Token.keywords, List.forall_mem_cons] at hne
  refine ⟨.macroCall (pathText false [.segment macroName]) none .parenthesis content, rfl, ?_⟩
  simp only [Code.macroCall, word, mark, parens, List.cons_append, List.nil_append]
  rw [atom_of_pathWord hword]
  simp [namedExpression, Grammar.path, segments, segment, hne, hname, laterSegments,
    Parser.many_none,
    Syntax.isPlainPath]

def IsEntry (code : Code) : Prop :=
  ∃ fieldName value, code = entry fieldName value ∧ Token.isName fieldName = true ∧
    IsExpression true value

def IsEntries (code : Code) : Prop :=
  ∃ entries : List Code, code = entries.flatten ∧ ∀ part ∈ entries, IsEntry part

namespace IsEntries

theorem nil : IsEntries [] :=
  ⟨[], rfl, by simp⟩

theorem entry {fieldName : String} {value : Code} (hname : Token.isName fieldName = true)
    (hvalue : IsExpression true value) : IsEntries (entry fieldName value) :=
  ⟨[Code.entry fieldName value], by simp, by simpa using ⟨fieldName, value, rfl, hname, hvalue⟩⟩

theorem append {later : Code} (hcode : IsEntries code) (hlater : IsEntries later) :
    IsEntries (code ++ later) := by
  obtain ⟨entries, rfl, hentries⟩ := hcode
  obtain ⟨laterEntries, rfl, hlaterEntries⟩ := hlater
  refine ⟨entries ++ laterEntries, by simp, ?_⟩
  intro part hmem
  exact (List.mem_append.mp hmem).elim (hentries part) (hlaterEntries part)

end IsEntries

/-- Entries, and perhaps a value from which the other fields are taken. -/
def IsFields (code : Code) : Prop :=
  ∃ entries last, code = entries ++ last ∧ IsEntries entries ∧
    (last = [] ∨ ∃ value, last = operator '.' '.' ++ value ∧ IsExpression true value)

theorem fieldValues_run {entries : List Code} {last : Code}
    (hentries : ∀ part ∈ entries, IsEntry part)
    (hlast : last = [] ∨ ∃ value, last = operator '.' '.' ++ value ∧ IsExpression true value)
    {depth : Nat} (fuel : Nat) (hdepth : 4 * Code.size (entries.flatten ++ last) ≤ depth)
    (hfuel : (entries.flatten ++ last).length < fuel) :
    ∃ fields, fieldValues (read depth) fuel (entries.flatten ++ last) = .ok (fields, []) := by
  induction entries generalizing fuel with
  | nil =>
      obtain ⟨fuel, rfl⟩ := Nat.exists_eq_add_of_le' (by omega : 1 ≤ fuel)
      rcases hlast with rfl | ⟨value, rfl, hvalue⟩
      · exact ⟨([], none), by simp [fieldValues]⟩
      · simp only [List.flatten_nil, List.nil_append, operator, List.cons_append, Code.size_cons,
          Token.size_punct] at hdepth
        obtain ⟨node, hnode⟩ := hvalue.whole endsExpression_nil (by omega : _ ≤ depth)
        exact ⟨([], some node), by simp [fieldValues, operator, hvalue.nonempty, hnode]⟩
  | cons first entries ih =>
      obtain ⟨fuel, rfl⟩ := Nat.exists_eq_add_of_le' (by omega : 1 ≤ fuel)
      obtain ⟨⟨fieldName, value, rfl, hname, hvalue⟩, hothers⟩ := List.forall_mem_cons.mp hentries
      simp only [List.flatten_cons, entry, word, mark, List.append_assoc, List.cons_append,
        List.nil_append, Code.size_append, Code.size_cons, Token.size_ident, Token.size_punct,
        List.length_append, List.length_cons] at hdepth hfuel ⊢
      obtain ⟨node, hnode⟩ := hvalue.run depth
        (.punct ',' .alone :: (entries.flatten ++ last)) (by omega) (endsExpression_comma _)
      obtain ⟨fields, hfields⟩ := ih hothers fuel (by simp only [Code.size_append]; omega)
        (by simp only [List.length_append]; omega)
      refine ⟨(.fieldValue fieldName node :: fields.1, fields.2), ?_⟩
      simp [fieldValues, fieldValue, outerAttributes_none, hname, member, hnode, hfields]

theorem IsFields.run (hfields : IsFields code) {depth : Nat}
    (hdepth : 4 * Code.size code ≤ depth) (rest : Code) :
    ∃ fields, Parser.within .brace (Parser.bounded (fieldValues (read depth)))
      (.group .brace code :: rest) = .ok (fields, rest) := by
  obtain ⟨entries, last, rfl, ⟨entries, rfl, hentries⟩, hlast⟩ := hfields
  obtain ⟨fields, hrun⟩ := fieldValues_run hentries hlast _ hdepth (Nat.lt_succ_self _)
  exact ⟨fields, Parser.within_run hrun⟩

theorem IsCallee.record {fields : Code} (hpath : IsPath true code) (hfields : IsFields fields) :
    IsCallee true (code ++ braces fields) := by
  obtain ⟨text, tail, rfl, hword⟩ := hpath.head
  refine .of_atom (startsPlainly_ident _ _) ?_
  intro depth rest hdepth _
  simp only [braces, Code.size_append, Code.size_cons, Code.size_nil, Token.size_group,
    Token.size_ident] at hdepth
  have hbehind : EndsPath true (.group .brace fields :: rest) := ⟨by simp, by simp⟩
  obtain ⟨names, hnames⟩ := hpath.run
    (by simp only [Code.size_cons, Token.size_ident]; omega : _ ≤ depth + 2) hbehind
  obtain ⟨values, hvalues⟩ := hfields.run (by omega : _ ≤ depth) rest
  refine ⟨.record (.path false names) values.1 values.2, rfl, ?_⟩
  simp only [List.cons_append] at hnames
  simp only [braces, List.append_assoc, List.cons_append, List.nil_append]
  rw [atom_of_pathWord hword]
  simp [namedExpression, hnames, hvalues]

end ProviderForge.Grammar

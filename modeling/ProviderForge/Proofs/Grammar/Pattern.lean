import ProviderForge.Proofs.Grammar.Type

namespace ProviderForge.Grammar

open Code Result

structure EndsPattern (rest : Code) : Prop where
  segment : rest.atMark [':', ':'] = false
  bang : rest.atMark ['!'] = false
  brace : rest.atGroup .brace = false
  call : rest.atGroup .parenthesis = false
  range : rest.atMark ['.', '.'] = false
  binding : rest.atMark ['@'] = false

/-- What may stand behind a pattern where several could stand. -/
structure EndsAlternatives (rest : Code) : Prop extends EndsPattern rest where
  bar : rest.atBar = false

def StartsPlainly (code : Code) : Prop :=
  ∃ token tail, code = token :: tail ∧ ∀ character spacing, token ≠ .punct character spacing

theorem StartsPlainly.atMark {code : Code} (hplain : StartsPlainly code) (character : Char)
    (more : List Char) (rest : Code) : (code ++ rest).atMark (character :: more) = false := by
  obtain ⟨token, tail, rfl, htoken⟩ := hplain
  cases token with
  | punct character spacing => exact absurd rfl (htoken character spacing)
  | _ => simp

structure IsPattern (code : Code) : Prop where
  plain : StartsPlainly code
  reads : Reads (fun depth => read depth .pattern) EndsPattern code

theorem startsPlainly_ident (text : String) (tail : Code) : StartsPlainly (.ident text :: tail) :=
  ⟨.ident text, tail, rfl, by simp⟩

theorem startsPlainly_group (delimiter : Delimiter) (content tail : Code) :
    StartsPlainly (.group delimiter content :: tail) :=
  ⟨.group delimiter content, tail, rfl, by simp⟩

theorem IsPattern.alternatives {code : Code} (hpattern : IsPattern code) :
    Reads (fun depth => alternatives (read depth)) EndsAlternatives code := by
  refine ⟨hpattern.reads.nonempty, ?_⟩
  intro depth rest hdepth hrest
  obtain ⟨node, hnode⟩ := hpattern.reads.run depth rest hdepth hrest.toEndsPattern
  refine ⟨node, ?_⟩
  simp [Grammar.alternatives, hpattern.plain.atMark, hnode, hrest.bar]

theorem IsPattern.name {text : String} (hname : Token.isName text = true) :
    IsPattern (word text) := by
  refine ⟨startsPlainly_ident text [], by simp [word], ?_⟩
  intro depth rest hdepth hrest
  simp only [word, Code.size_cons, Code.size_nil, Token.size_ident] at hdepth
  obtain ⟨depth, rfl⟩ := Nat.exists_eq_add_of_le' (by omega : 1 ≤ depth)
  have hne := Token.ne_of_isName hname
  simp only [Token.keywords, List.forall_mem_cons] at hne
  refine ⟨.word text, ?_⟩
  simp [word, step, pattern, hrest.segment, hrest.bang, hrest.brace, hrest.call, hrest.range, hne,
    hname, identifierPattern, boundName, hrest.binding]

theorem IsPattern.mutable {text : String} (hname : Token.isName text = true) :
    IsPattern (word "mut" ++ word text) := by
  refine ⟨startsPlainly_ident "mut" _, by simp [word], ?_⟩
  intro depth rest hdepth hrest
  simp only [word, Code.size_append, Code.size_cons, Code.size_nil, Token.size_ident] at hdepth
  obtain ⟨depth, rfl⟩ := Nat.exists_eq_add_of_le' (by omega : 1 ≤ depth)
  have hne := Token.ne_of_isName hname
  simp only [Token.keywords, List.forall_mem_cons] at hne
  refine ⟨.word ("mut " ++ text), ?_⟩
  simp [word, step, pattern, Token.isName, Token.keywords, identifierPattern, boundName, hne,
    hrest.binding]

theorem IsPattern.wildcard : IsPattern (word "_") := by
  refine ⟨startsPlainly_ident "_" [], by simp [word], ?_⟩
  intro depth rest hdepth hrest
  simp only [word, Code.size_cons, Code.size_nil, Token.size_ident] at hdepth
  obtain ⟨depth, rfl⟩ := Nat.exists_eq_add_of_le' (by omega : 1 ≤ depth)
  exact ⟨.word "_", by simp [word, step, pattern, Token.isName, Token.keywords]⟩

theorem endsAlternatives_nil : EndsAlternatives [] := by
  refine ⟨⟨?_, ?_, ?_, ?_, ?_, ?_⟩, ?_⟩ <;> rfl

theorem endsAlternatives_comma (rest : Code) : EndsAlternatives (.punct ',' .alone :: rest) := by
  refine ⟨⟨?_, ?_, ?_, ?_, ?_, ?_⟩, ?_⟩ <;> simp

theorem IsPattern.construction {constructor : String} {elements : Code}
    (hname : Token.isName constructor = true) (helements : IsListing IsPattern elements) :
    IsPattern (call (word constructor) elements) := by
  refine ⟨startsPlainly_ident constructor _, by simp [call, word], ?_⟩
  intro depth rest hdepth hrest
  simp only [call, parens, word, Code.size_append, Code.size_cons, Code.size_nil,
    Token.size_ident, Token.size_group] at hdepth
  obtain ⟨depth, rfl⟩ := Nat.exists_eq_add_of_le' (by omega : 1 ≤ depth)
  have hreads : IsListing (Reads (fun depth => Grammar.alternatives (read depth)) EndsAlternatives)
      elements := helements.mono fun _ hpattern => hpattern.alternatives
  obtain ⟨nodes, hnodes⟩ := commaList_run hreads endsAlternatives_nil endsAlternatives_comma
    (by omega : _ ≤ depth)
  have hpath : IsPath true (word constructor) := .single (.word (.inl hname))
  have hbehind : EndsPath true (.group .parenthesis elements :: rest) := ⟨by simp, by simp⟩
  obtain ⟨names, hnames⟩ := hpath.run
    (by simp only [word, Code.size_cons, Code.size_nil, Token.size_ident]; omega : _ ≤ depth + 2)
    hbehind
  refine ⟨.tuplePattern (.path false names) nodes, ?_⟩
  simp only [word, List.cons_append, List.nil_append] at hnames
  simp [call, parens, word, step, pattern, hname, namedPattern, hnames, hnodes, unowned]

theorem IsPattern.tuple {first : Code} {elements : Code} (hfirst : IsPattern first)
    (helements : IsListing IsPattern elements) :
    IsPattern (parens (first ++ mark ',' ++ elements)) := by
  refine ⟨startsPlainly_group _ _ _, by simp [parens], ?_⟩
  intro depth rest hdepth hrest
  simp only [parens, mark, Code.size_append, Code.size_cons, Code.size_nil, Token.size_group,
    Token.size_punct] at hdepth
  obtain ⟨depth, rfl⟩ := Nat.exists_eq_add_of_le' (by omega : 1 ≤ depth)
  obtain ⟨node, hnode⟩ := hfirst.alternatives.run depth (.punct ',' .alone :: elements) (by omega)
    (endsAlternatives_comma elements)
  have hreads : IsListing (Reads (fun depth => Grammar.alternatives (read depth)) EndsAlternatives)
      elements := helements.mono fun _ hpattern => hpattern.alternatives
  obtain ⟨nodes, hnodes⟩ := commaList_run hreads endsAlternatives_nil endsAlternatives_comma
    (by omega : _ ≤ depth)
  refine ⟨.tuple (node :: nodes) true, ?_⟩
  simp [parens, mark, step, pattern, parenthesizedPatterns, hfirst.reads.nonempty, hnode, hnodes]

end ProviderForge.Grammar

import ProviderForge.Proofs.Code.Decision
import ProviderForge.Proofs.Grammar.Item

namespace ProviderForge

namespace Identifier

/-- Every keyword of the grammar is written as a raw identifier, or is no identifier at all. -/
theorem isName_of_free {name : String} (hkeyword : Name.isKeyword name = false)
    (hreserved : name ∉ Name.reserved) : Token.isName name = true := by
  have hcovered : ∀ keyword ∈ Token.keywords,
      keyword ∈ Name.rawKeywords ∨ keyword ∈ Name.reserved := by decide
  have hfree : name ∉ Token.keywords := by
    intro hmem
    rcases hcovered name hmem with hraw | hmem
    · simp [Name.isKeyword, hraw] at hkeyword
    · exact hreserved hmem
  simpa [Token.isName] using hfree

theorem isName_raw (name : String) : Token.isName ("r#" ++ name) = true := by
  have hother : ∀ keyword ∈ Token.keywords, ¬ "r#".toList <+: keyword.toList := by decide
  have hfree : "r#" ++ name ∉ Token.keywords := fun hmem =>
    hother _ hmem ⟨name.toList, (String.toList_append).symm⟩
  simpa [Token.isName] using hfree

theorem isName_of_type {name : String} {identifier : Identifier}
    (htype : type name = .ok identifier) : Token.isName identifier.text = true := by
  obtain ⟨hfault, hkeyword, rfl⟩ := type_eq_ok.mp htype
  exact isName_of_free hkeyword (Name.fault?_eq_none.mp hfault).2

theorem isName_of_field {name : String} {identifier : Identifier}
    (hfield : field name = .ok identifier) : Token.isName identifier.text = true := by
  obtain ⟨hfault, rfl⟩ := field_eq_ok.mp hfield
  cases hkeyword : Name.isKeyword name with
  | true => exact isName_raw name
  | false => exact isName_of_free hkeyword (Name.fault?_eq_none.mp hfault).2

end Identifier

instance (text : String) : Decidable (Token.IsPathWord text) :=
  inferInstanceAs (Decidable (_ ∨ _))

namespace Code

open Grammar

variable {isExpression allowsRecord : Bool}

theorem ident_eq_word (identifier : Identifier) : ident identifier = word identifier.text := rfl

theorem isPath_word {text : String} (hword : Token.IsPathWord text) :
    IsPath isExpression (word text) :=
  .single (.word hword)

theorem isPath_append {outer inner : Code} (houter : IsPath isExpression outer)
    (hinner : IsSegment isExpression inner) : IsPath isExpression (outer ++ colons ++ inner) := by
  obtain ⟨first, later, rfl, hfirst, hlater⟩ := houter
  refine ⟨first, later ++ [inner], by simp [laterSegmentsCode], hfirst, ?_⟩
  intro segment hmem
  rcases List.mem_append.mp hmem with hmem | hmem
  · exact hlater segment hmem
  · rw [List.mem_singleton.mp hmem]
    exact hinner

theorem isPath_path {text : String} {names : List String}
    (hnames : ∀ name ∈ text :: names, Token.IsPathWord name) :
    IsPath isExpression (path (text :: names)) := by
  obtain ⟨htext, hothers⟩ := List.forall_mem_cons.mp hnames
  refine ⟨word text, names.map word, ?_, .word htext, ?_⟩
  · clear hnames htext hothers
    induction names generalizing text with
    | nil => simp [path, laterSegmentsCode]
    | cons second names ih =>
        have hsecond := @ih second
        simp only [path, List.map_cons] at hsecond
        simp [path, separated, hsecond, laterSegmentsCode]
  · intro segment hmem
    obtain ⟨name, hname, rfl⟩ := List.mem_map.mp hmem
    exact .word (hothers name hname)

theorem isPath_angled {moduleName family : String} {argument : Code}
    (hmodule : Token.IsPathWord moduleName) (hfamily : Token.isName family = true)
    (hargument : IsArgument argument) :
    IsPath false (path [moduleName, family] ++ angled argument) := by
  have hpath := isPath_append (isPath_word hmodule) (.angled hfamily hargument)
  simpa [path, separated] using hpath

theorem isPath_turbofish {moduleName family : String} {argument : Code}
    (hmodule : Token.IsPathWord moduleName) (hfamily : Token.isName family = true)
    (hargument : IsArgument argument) :
    IsPath true (path [moduleName, family] ++ colons ++ angled argument) := by
  have hpath := isPath_append (isPath_word hmodule) (.turbofish hfamily hargument)
  simpa [path, separated] using hpath

theorem isCallee_word {text : String} (hword : Token.IsPathWord text) :
    IsCallee allowsRecord (word text) :=
  .path (isPath_word hword)

theorem isCallee_path {text : String} {names : List String}
    (hnames : ∀ name ∈ text :: names, Token.IsPathWord name) :
    IsCallee allowsRecord (path (text :: names)) :=
  .path (isPath_path hnames)

theorem isCallee_truth {text : String} (htruth : text = "true" ∨ text = "false") :
    IsCallee allowsRecord (word text) := by
  refine .of_atom (startsPlainly_ident text []) ?_
  intro depth rest _ _
  refine ⟨.literal text, rfl, ?_⟩
  rcases htruth with rfl | rfl <;> simp [word, atom, Parser.literal]

theorem isCallee_text (value : String) : IsCallee allowsRecord (text value) :=
  .literal _

theorem isCallee_number (value : Nat) : IsCallee allowsRecord (number value) :=
  .literal _

theorem isCallee_ownedText (value : String) : IsCallee allowsRecord (ownedText value) :=
  (isCallee_text value).isAccess.invoke (by decide) .nil

theorem isCallee_defaultOf {typeCode : Code} (hpath : IsPath true typeCode) :
    IsCallee allowsRecord (defaultOf typeCode) :=
  .call (.path (isPath_append hpath (.word (.inl (by decide))))) .nil

theorem isAccess_fields {root : String} {members : List String} (hroot : Token.IsPathWord root)
    (hmembers : ∀ member ∈ members, Token.isName member = true) :
    IsAccess allowsRecord (fields (word root) members) := by
  have hall : ∀ object, IsAccess allowsRecord object →
      IsAccess allowsRecord (fields object members) := by
    induction members with
    | nil => exact fun object hobject => hobject
    | cons member members ih =>
        obtain ⟨hmember, hothers⟩ := List.forall_mem_cons.mp hmembers
        exact fun object hobject => ih hothers _ (hobject.field hmember)
  exact hall _ (isCallee_word hroot).isAccess

theorem isAccess_accessPath {root : String} {members : List Identifier}
    (hroot : Token.IsPathWord root)
    (hmembers : ∀ member ∈ members, Token.isName member.text = true) :
    IsAccess allowsRecord (accessPath root members) := by
  have hall : ∀ object, IsAccess allowsRecord object →
      IsAccess allowsRecord (object ++ members.flatMap fun member => mark '.' ++ ident member) := by
    induction members with
    | nil => exact fun object hobject => by simpa using hobject
    | cons member members ih =>
        obtain ⟨hmember, hothers⟩ := List.forall_mem_cons.mp hmembers
        intro object hobject
        have hnext := ih hothers _ (hobject.field hmember)
        simpa [field, ident_eq_word] using hnext
  exact hall _ (isCallee_word hroot).isAccess

theorem fieldPath_ok {root : String} (hroot : root = "self" ∨ root = "data")
    {members : List String} {code : Code} (hcode : fieldPath root members = .ok code) :
    ∃ identifiers : List Identifier, code = accessPath root identifiers ∧
      ∀ member ∈ identifiers, Token.isName member.text = true := by
  rw [fieldPath_eq hroot] at hcode
  obtain ⟨identifiers, hall, rfl⟩ := Result.map_eq_ok.mp hcode
  refine ⟨identifiers, rfl, ?_⟩
  intro member hmem
  obtain ⟨name, -, hname⟩ := Result.exists_of_mapM_ok hall member hmem
  exact Identifier.isName_of_field hname

theorem isFields_of_entries {entries : Code} (hentries : IsEntries entries) : IsFields entries :=
  ⟨entries, [], by simp, hentries, .inl rfl⟩

theorem isFields_remainingDefaults {entries : Code} (hentries : IsEntries entries) :
    IsFields (entries ++ remainingDefaults) :=
  ⟨entries, remainingDefaults, rfl, hentries, .inr ⟨_, rfl,
    (IsCallee.call (isCallee_path (by decide)) .nil).isExpression⟩⟩

/-- Whatever stands behind the code, it begins a sentence. -/
def BeginsSentence (code : Code) : Prop :=
  ∀ rest, StartsSentence (code ++ rest)

theorem BeginsSentence.append {code : Code} (hcode : BeginsSentence code) (later : Code) :
    BeginsSentence (code ++ later) := by
  intro rest
  rw [List.append_assoc]
  exact hcode (later ++ rest)

theorem beginsSentence_access {root : String} (hroot : root ∉ statementWords) :
    BeginsSentence (word root ++ mark '.') :=
  fun rest => startsSentence_word hroot (by simp [mark]) (by simp [mark])

theorem beginsSentence_call {callee : String} (hcallee : callee ∉ statementWords)
    (arguments : Code) : BeginsSentence (call (word callee) arguments) :=
  fun rest => startsSentence_word hcallee (by simp [parens]) (by simp [parens])

theorem isSentence_of_begins {code : Code} (hexpression : IsExpression true code)
    (hbegins : BeginsSentence code) : IsSentence code :=
  hexpression.isSentence fun rest _ => hbegins rest

theorem isSentence_word {text : String} (hword : Token.IsPathWord text)
    (hother : text ∉ statementWords) : IsSentence (word text) :=
  (isCallee_word hword).isExpression.isSentence fun _ hrest => hrest.startsSentence hother

theorem isSentence_invoke {object arguments : Code} {methodName : String}
    (hobject : IsAccess true object) (hbegins : BeginsSentence (object ++ mark '.'))
    (hname : Token.isName methodName = true) (harguments : IsArguments arguments) :
    IsSentence (invoke object methodName arguments) := by
  refine isSentence_of_begins (hobject.invoke hname harguments).isExpression ?_
  have hlater := hbegins.append (word methodName ++ parens arguments)
  simpa [invoke, call, field] using hlater

theorem isSentence_call {callee : String} {arguments : Code}
    (hcallee : Token.IsPathWord callee) (hother : callee ∉ statementWords)
    (harguments : IsArguments arguments) : IsSentence (call (word callee) arguments) :=
  isSentence_of_begins ((isCallee_word hcallee).call harguments).isExpression
    (beginsSentence_call hother arguments)

theorem isSentence_pathCall {moduleName functionName : String} {arguments : Code}
    (hmodule : Token.isName moduleName = true) (hother : moduleName ∉ statementWords)
    (hfunction : Token.isName functionName = true) (harguments : IsArguments arguments) :
    IsSentence (call (path [moduleName, functionName]) arguments) := by
  have hcallee : IsCallee true (path [moduleName, functionName]) :=
    isCallee_path (by simpa using ⟨.inl hmodule, .inl hfunction⟩)
  refine isSentence_of_begins (hcallee.call harguments).isExpression fun rest => ?_
  have hcode : call (path [moduleName, functionName]) arguments ++ rest =
      .ident moduleName :: .punct ':' .joint :: .punct ':' .alone :: .ident functionName ::
        .group .parenthesis arguments :: rest := by
    simp [call, path, separated, word, colons, operator, parens]
  rw [hcode]
  simp only [statementWords, List.mem_cons, not_or] at hother
  constructor
  · simp [macroUse, plainPath, plainPath.pathName, hmodule, hfunction, Parser.many, Parser.repeated]
  · simp [hother]
  · simp [atItem, hother]
  · simp [atBlockLike, hother]
  · exact endsStatement_word (by simp [hother]) _

theorem beginsSentence_accessPath {root : String} (hroot : root ∉ statementWords)
    (members : List Identifier) : BeginsSentence (accessPath root members ++ mark '=') := by
  intro rest
  cases members with
  | nil => exact startsSentence_word hroot (by simp [mark]) (by simp [mark])
  | cons member members => exact startsSentence_word hroot (by simp [mark]) (by simp [mark])

theorem isStatements_assign {target value : Code} (htarget : IsAccess true target)
    (hbegins : BeginsSentence (target ++ mark '=')) (hvalue : IsCallee true value) :
    IsStatements (assign target value) := by
  refine (IsSentence.assignment htarget hvalue.isOperand fun rest => ?_).isStatements
  simpa [mark] using hbegins rest

end Code

end ProviderForge

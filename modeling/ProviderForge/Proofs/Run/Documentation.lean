import ProviderForge.Proofs.Code.Documented
import ProviderForge.Proofs.Generated
import ProviderForge.Proofs.Run.Preview

namespace ProviderForge

open Layout Result

namespace Layout

theorem ofText?_docAttribute (text : String) (place : Layout.Place) :
    Code.ofText? (draw (.documentation text) place).text.toList = readBack text.toList := by
  rw [draw_documentation, readBack]
  cases hdocumentation : documentation? false text.toList with
  | none =>
      -- the attribute as it is written where no comment can hold the text
      let written := word "#[" ++ word "doc" ++ word " = " ++ word (Quoted.quote text) ++
        word "]" ++ space
      obtain ⟨room, -, htext⟩ : ∃ room ≤ lineWidth, written.text.toList =
          ["#[", "doc", " = ", Quoted.quote text, "]"].flatMap String.toList ++
            if ((1 : Nat) : Int) ≤ room then [] else ['\n'] := toList_words rfl
      have hmarks : "#[".toList ++ ("doc".toList ++ " = ".toList) =
          ['#', '[', 'd', 'o', 'c', ' ', '=', ' '] := by decide +kernel
      have hwords : written.text.toList =
          ['#', '[', 'd', 'o', 'c', ' ', '=', ' '] ++ (Quoted.quote text).toList ++
            ']' :: if ((1 : Nat) : Int) ≤ room then [] else ['\n'] := by
        rw [htext, ← hmarks]
        simp
      rw [Option.getD_none, hwords, Lexer.ofText?_attribute]
      split <;> simp
  | some drawing => exact ofText?_documentation hdocumentation

end Layout

/-- The documentation of a field is read back from what is laid out for it. -/
theorem Attribute.fieldDeclaration_readBack {parent : String} {declared : Attribute} {code : Code}
    (hcode : declared.fieldDeclaration parent = .ok code) (depth : Nat) (place : Layout.Place) :
    ∃ node declaration,
      Grammar.outerAttributes (Grammar.read (depth + 4)) code = .ok ([node], declaration) ∧
      Code.ofText? (draw node place).text.toList =
        readBack (' ' :: declared.markdownDescription.toList) := by
  simp only [fieldDeclaration, bind_eq_ok, pure_eq_ok] at hcode
  obtain ⟨identifier, -, type, -, rfl⟩ := hcode
  have htext := ofText?_docAttribute (" " ++ declared.markdownDescription) place
  rw [String.toList_append] at htext
  refine ⟨_, Code.word "pub" ++ (Code.ident identifier ++ (Code.mark ':' ++ type)), ?_, htext⟩
  simp only [List.append_assoc]
  rw [← List.append_assoc (Code.word "doc"),
    outerAttributes_documentation _ _ (by simp [Code.word])]

/-- The attributes that the file of a task has fields for. -/
def Task.attributes : Task → List Attribute
  | dataSource declared => Attribute.everywhere declared.attributes
  | resource declared => Attribute.everywhere declared.attributes
  | registry _ => []

theorem Task.documents_code {task : Task} {code : Code} (hcode : task.code.result = .ok code)
    {declared : Attribute} (hmem : declared ∈ task.attributes) {source : SourceFile}
    (hsource : SourceFile.ofCode code = .ok source) :
    ∃ item ∈ source.items, declared.IsDocumentedBy item := by
  cases task with
  | dataSource entity =>
      obtain ⟨⟨-, hfields⟩, hhash⟩ := DataSource.documents_code (code_dataSource hcode)
      exact (hfields declared hmem).ofCode hhash hsource
  | resource entity =>
      obtain ⟨⟨-, hfields⟩, hhash⟩ := Resource.documents_code (code_resource hcode)
      exact (hfields declared hmem).ofCode hhash hsource
  | registry definitions => cases hmem

/-- The text stands in the file as documentation. Whoever reads the file up to it gets no further
if a carriage return in it ends no line, and otherwise reads the tokens back. -/
def GeneratedFile.Documents (file : GeneratedFile) (text : List Char) : Prop :=
  ∃ before behind, file.content.toList = before ++ documentation text ++ behind ∧
    match readBack text with
    | none => ∀ fuel stack taken, Lexer.run fuel stack taken (documentation text ++ behind) = none
    | some tokens => ∃ steps, ∀ fuel stack taken,
        Lexer.run (fuel + steps) stack taken (documentation text ++ behind) =
          Lexer.run fuel stack (tokens.reverse ++ taken) behind

theorem GeneratedFile.documents_of_toList {file : GeneratedFile}
    {text before behind : List Char}
    (hcontent : file.content.toList = before ++ documentation text ++ behind)
    (hends : (documentation? false text).isSome → behind.head? = some '\n') :
    file.Documents text := by
  refine ⟨before, behind, hcontent, ?_⟩
  cases htokens : readBack text with
  | none => exact fun fuel stack taken => run_documentation_none htokens fuel stack taken behind
  | some tokens => exact run_documentation_some htokens hends

theorem Task.documents_render {task : Task} {outputDirectory : String} {file : GeneratedFile}
    (hrender : (task.render outputDirectory).result = .ok file) {declared : Attribute}
    (hmem : declared ∈ task.attributes) : file.Documents declared.documentation.toList := by
  obtain ⟨code, content, hcode, hcontent, rfl⟩ := code_of_render hrender
  unfold GeneratedFile.contentOf at hcontent
  split at hcontent
  next source hsource =>
    cases hcontent
    obtain ⟨item, hitem, hdocumented⟩ := documents_code hcode hmem hsource
    obtain ⟨before, behind, htext, hends⟩ := SourceFile.toList_text_documented hitem hdocumented
    have hfile : (GeneratedFile.header ++ source.text).toList =
        GeneratedFile.header.toList ++ before ++ documentation declared.documentation.toList ++
          behind := by
      rw [String.toList_append, htext]
      simp only [List.append_assoc]
    exact GeneratedFile.documents_of_toList hfile hends
  next => cases hcontent

theorem RunOptions.performAll_rendered_of_mem {options : RunOptions} {tasks : List Task}
    {tree : Tree} {outcome : Outcome} (hmem : outcome ∈ (options.performAll tree tasks).2.1)
    {file : GeneratedFile} (hresult : outcome.result = .ok file) :
    ∃ task ∈ tasks, (task.render options.outputDirectory).result = .ok file := by
  induction tasks generalizing tree with
  | nil => cases hmem
  | cons task tasks ih =>
      rcases List.mem_cons.mp hmem with rfl | hmem
      · exact ⟨task, List.mem_cons_self, perform_rendered hresult⟩
      · obtain ⟨later, hlater, hrender⟩ := ih hmem
        exact ⟨later, List.mem_cons_of_mem _ hlater, hrender⟩

/-- Every file of a report shows the documentation of all attributes of its entity, at every depth
of it; a carriage return in one of them that ends no line makes the file unreadable from there. -/
theorem Definitions.run_documents {definitions : Definitions} {options : RunOptions} {tree : Tree}
    {report : Report} (hrun : (definitions.run options tree).2.result = .ok report) :
    ∃ tasks, definitions.plan options.filter = .ok tasks ∧ ∀ file ∈ report.files,
      ∃ task ∈ tasks, file.path = task.path options.outputDirectory ∧
        ∀ declared ∈ task.attributes, file.Documents declared.documentation.toList := by
  unfold run at hrun
  cases hplan : definitions.plan options.filter with
  | error failure => simp [hplan] at hrun
  | ok tasks =>
      simp only [hplan, Except.ok.injEq] at hrun
      subst hrun
      refine ⟨tasks, rfl, fun file hfile => ?_⟩
      obtain ⟨outcome, hmem, hresult⟩ := Outcome.mem_report_files.mp hfile
      obtain ⟨task, htask, hrender⟩ := RunOptions.performAll_rendered_of_mem hmem hresult
      exact ⟨task, htask, (Task.path_of_render hrender).2,
        fun declared hdeclared => Task.documents_render hrender hdeclared⟩

def returnedName : DataSource where
  name := "team"
  description := ""
  api := { model := "Team", readMethod := "GetTeam" }
  attributes := [.string "name" "a\rb"]

theorem returnedName_readBack :
    ∃ code, (Attribute.string "name" "a\rb").fieldDeclaration "TeamDataSourceModel" = .ok code ∧
      ∃ node declaration,
        Grammar.outerAttributes (Grammar.read 4) code = .ok ([node], declaration) ∧
        Code.ofText? (draw node .inline).text.toList = none := by
  have hfield : Succeeds
      ((Attribute.string "name" "a\rb").fieldDeclaration "TeamDataSourceModel") := by
    decide +kernel
  obtain ⟨code, hcode⟩ := hfield
  obtain ⟨node, declaration, hattributes, htext⟩ :=
    Attribute.fieldDeclaration_readBack hcode 0 .inline
  refine ⟨code, hcode, node, declaration, hattributes, htext.trans ?_⟩
  decide +kernel

theorem SourceFile.toList_text (file : SourceFile) :
    file.text.toList = Page.addedAll {} (measure 0 [] [] (boxed 0
      (inOrder (layAll file.attributes) ++ inOrder (layAll file.items)) [])) :=
  Drawing.toList_text _

theorem returnedName_isUnread :
    ∃ code source, (Task.dataSource returnedName).code.result = .ok code ∧
      SourceFile.ofCode code = .ok source ∧
      Code.ofText? (GeneratedFile.header ++ source.text).toList = none := by
  have hunread : (match (Task.dataSource returnedName).code.result with
      | .error _ => false
      | .ok code => match SourceFile.ofCode code with
          | .error _ => false
          | .ok source => (Code.ofText? (GeneratedFile.header.toList ++ Page.addedAll {}
              (measure 0 [] [] (boxed 0 (inOrder (layAll source.attributes) ++
                inOrder (layAll source.items)) [])))).isNone) = true := by
    decide +kernel
  split at hunread
  next => cases hunread
  next code hcode =>
    split at hunread
    next => cases hunread
    next source hsource =>
      rw [← SourceFile.toList_text, ← String.toList_append, Option.isNone_iff_eq_none] at hunread
      exact ⟨code, source, hcode, hsource, hunread⟩

/-- A run without failures can report a file that is not read back. -/
theorem returnedName_run :
    ∃ report, (Definitions.run ⟨[returnedName], []⟩ ⟨"out", none, true⟩ {}).2.result =
        .ok report ∧ report.failures = [] ∧
      ∃ file ∈ report.files, Code.ofText? file.content.toList = none := by
  obtain ⟨code, source, hcode, hsource, hunread⟩ := returnedName_isUnread
  have hregistry : Succeeds (Task.registry ⟨[returnedName], []⟩).code.result := by
    -- sorting is not by structural recursion, so the kernel is given the sorted names
    simp only [Task.code, Traced.result_ofExcept, Registry.code, Registry.sortedNames,
      List.map_cons, List.map_nil, List.mergeSort_singleton, List.mergeSort_nil]
    decide +kernel
  obtain ⟨registry, hregistry⟩ := hregistry
  obtain ⟨registryFile, hregistryFile⟩ :=
    Task.exists_render hregistry (Registry.isFile_code hregistry) "out"
  have hfile := Task.render_of_code hcode hsource "out"
  have hplan : Definitions.plan ⟨[returnedName], []⟩ none =
      .ok [.dataSource returnedName, .registry ⟨[returnedName], []⟩] := by
    have hnames : Definitions.checkNames ⟨[returnedName], []⟩ = .ok () := by decide +kernel
    simp only [Definitions.plan, hnames, ok_bind, Definitions.selection_all]
    simp
  have hrendered : [Task.dataSource returnedName, .registry ⟨[returnedName], []⟩].mapM
      (fun task => (task.render "out").result) =
        .ok [⟨(Task.dataSource returnedName).path "out", GeneratedFile.header ++ source.text⟩,
          registryFile] := by
    simp [hfile, hregistryFile]
  obtain ⟨report, hrun, hfailures, hperm⟩ := Definitions.run_of_rendered hplan hrendered {}
  exact ⟨report, hrun, hfailures, _, hperm.mem_iff.mpr List.mem_cons_self, hunread⟩

end ProviderForge

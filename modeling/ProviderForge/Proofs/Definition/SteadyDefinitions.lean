import ProviderForge.Proofs.Definition.SteadyAttribute

namespace ProviderForge

open Json (Source)
open Document Result Assembly

namespace PageHooks

theorem mem_names {name : String} :
    name ∈ assembly.shape.names ↔ name = "read_model" ∨ name = "read_init_loop" ∨
      name = "read_pre_iterate" ∨ name = "read_post_iterate" := by
  simp [assembly, Shape.names, Field.defaulted]

theorem assembly_isRegular {origin : Origin} : assembly.IsRegular origin .readStrategy {} where
  declared := by decide
  passes _ _ hskip := by simp [assembly, skip, hskip]
  commutes name hname other hother hne value second := by
    rcases mem_names.mp hname with rfl | rfl | rfl | rfl
    all_goals rcases mem_names.mp hother with rfl | rfl | rfl | rfl
    all_goals first
      | exact absurd rfl hne
      | exact .of_put fun _ _ _ => rfl
  defaults name hname := by
    rcases mem_names.mp hname with rfl | rfl | rfl | rfl
    all_goals exact Answers.optionally.put _

theorem assembly_isSteady {origin : Origin} : assembly.IsSteady origin .readStrategy := by
  intro name hname draft
  rcases mem_names.mp hname with rfl | rfl | rfl | rfl
  all_goals exact Steady.put (Steady.optionally Steady.string) _

end PageHooks

namespace ReadStrategy

theorem steady_ofDocument {origin : Origin} : Steady origin .readStrategy (ofDocument origin) := by
  intro document other strategy htwins hread
  rw [ofDocument, bind_eq_ok] at hread
  obtain ⟨⟨name, content⟩, hchoice, hcontent⟩ := hread
  obtain ⟨rest, hrest, hvary⟩ :=
    taggedChoice_follow (by decide) rfl (by decide) htwins hchoice
  rw [ofDocument, bind_eq_ok]
  refine ⟨(name, rest), hrest, ?_⟩
  simp only at hcontent ⊢
  split
  next hname =>
    rw [if_pos hname, bind_eq_ok] at hcontent
    obtain ⟨hooks, hhooks, hstrategy⟩ := hcontent
    refine bind_eq_ok.mpr ⟨hooks, PageHooks.assembly_isRegular.read_contents_eq
      PageHooks.assembly_isSteady (fun place field hplace => ?_) hvary hhooks, hstrategy⟩
    rcases place with _ | _ | _ | _ | place <;> cases hplace <;> rfl
  next hname =>
    rwa [if_neg hname, ← hvary.checkPlainChoice_eq] at hcontent

theorem answers_simple {origin : Origin} :
    Answers origin .simpleRead (ofDocument origin) .simple := by
  intro room source document strategy hheld hshows hread
  rw [ofDocument, bind_eq_ok] at hread
  obtain ⟨⟨name, content⟩, hchoice, hcontent⟩ := hread
  have hname : name = "simple" := by
    cases hheld with
    | simpleMembers hkind =>
        cases hshows with
        | lost => cases hchoice
        | object hmembers =>
            simp only [taggedChoice, resolved, Ending.check, bind_eq_ok, ok_bind, locate_eq_ok,
              pure_eq_ok, Prod.mk.injEq, Prod.exists] at hchoice
            obtain ⟨_, -, chosen, others, hsplit, found, hfound, rfl, -⟩ := hchoice
            rw [membersShow_iff] at hmembers
            rw [chosen_of_mem hmembers hkind (fills_of_splitChoice hmembers hsplit).1] at hfound
            cases hfound
            rfl
    | simpleItems =>
        cases hshows with
        | lost => cases hchoice
        | array hitems =>
            cases hitems with
            | cons hitem =>
                simp only [taggedChoice, resolved, Ending.check, bind_eq_ok, ok_bind, locate_eq_ok,
                  pure_eq_ok, Prod.mk.injEq] at hchoice
                obtain ⟨_, -, found, hfound, _, -, rfl, -⟩ := hchoice
                exact eq_of_variantName hitem hfound
  subst hname
  obtain ⟨_, -, hstrategy⟩ := bind_eq_ok.mp hcontent
  cases hstrategy
  rfl

end ReadStrategy

namespace DataSourceApi

theorem mem_names {origin : Origin} {name : String} :
    name ∈ (assembly origin).shape.names ↔ name = "model" ∨ name = "read_method" ∨
      name = "read_request_attributes" ∨ name = "read_strategy" := by
  simp [assembly, Shape.names, Field.required, Field.defaulted]

theorem assembly_isRegular {origin : Origin} :
    (assembly origin).IsRegular origin .dataSourceApi {} where
  declared name hname := by
    rcases mem_names.mp hname with rfl | rfl | rfl | rfl <;> decide
  passes _ _ hskip := by simp [assembly, skip, hskip]
  commutes name hname other hother hne value second := by
    rcases mem_names.mp hname with rfl | rfl | rfl | rfl
    all_goals rcases mem_names.mp hother with rfl | rfl | rfl | rfl
    all_goals first
      | exact absurd rfl hne
      | exact .of_put fun _ _ _ => rfl
  defaults name hname := by
    rcases mem_names.mp hname with rfl | rfl | rfl | rfl
    · exact .required
    · exact .required
    · exact Answers.list.put _
    · exact ReadStrategy.answers_simple.put _

theorem assembly_isSteady {origin : Origin} :
    (assembly origin).IsSteady origin .dataSourceApi := by
  intro name hname draft
  rcases mem_names.mp hname with rfl | rfl | rfl | rfl
  · exact Steady.put Steady.string _
  · exact Steady.put Steady.string _
  · exact Steady.put (Steady.strings (by decide)) _
  · exact Steady.put ReadStrategy.steady_ofDocument _

theorem steady_read {origin : Origin} (horigin : origin = .text ∨ origin = .copy) :
    Steady origin .dataSourceApi ((assembly origin).read origin {}) :=
  assembly_isRegular.steady_read assembly_isSteady horigin (by decide) fun place field hplace => by
    rcases place with _ | _ | _ | _ | place <;> cases hplace <;> rfl

end DataSourceApi

namespace DataSource

theorem mem_optionsAssembly_names {name : String} :
    name ∈ optionsAssembly.shape.names ↔ name = "model_fillers" := by
  simp [optionsAssembly, Shape.names, Field.defaulted]

theorem optionsAssembly_isRegular {origin : Origin} :
    optionsAssembly.IsRegular origin .generateOptions false where
  declared := by decide
  passes _ _ hskip := by simp [optionsAssembly, skip, hskip]
  commutes name hname other hother hne :=
    absurd ((mem_optionsAssembly_names.mp hname).trans (mem_optionsAssembly_names.mp hother).symm)
      hne
  defaults name hname := by
    obtain rfl := mem_optionsAssembly_names.mp hname
    exact Answers.flag

theorem optionsAssembly_isSteady {origin : Origin} :
    optionsAssembly.IsSteady origin .generateOptions :=
  fun _ _ _ => Steady.flag

theorem steady_readOptions {origin : Origin} (horigin : origin = .text ∨ origin = .copy) :
    Steady origin .generateOptions (optionsAssembly.read origin false) :=
  optionsAssembly_isRegular.steady_read optionsAssembly_isSteady horigin (by decide)
    fun place field hplace => by rcases place with _ | place <;> cases hplace; rfl

theorem eq_false_of_fills {origin : Origin} {room : Nat}
    {members : List (Option String × Source)} {entries : List (Entry Document)}
    (hshow : List.Forall₂ (EntryShows origin room) members entries)
    (hoff : ∀ value, (some "model_fillers", value) ∈ members → value = .flag false)
    {seen : List String} {last : Bool}
    (hfills : optionsAssembly.Fills origin entries seen false last) : last = false := by
  induction hshow generalizing seen with
  | nil =>
      cases hfills
      rfl
  | @cons member entry members entries hentry _ ih =>
      have hrest := fun value hmem => hoff value (List.mem_cons_of_mem _ hmem)
      cases hfills with
      | @take _ _ _ _ next _ name hfield hown _ htake hfills =>
          obtain ⟨key, value⟩ := member
          obtain rfl : key = some name := (hentry.of_field hfield).1
          obtain rfl := mem_optionsAssembly_names.mp hown
          have hheld : Default.IsHeldBy .off value := hoff value List.mem_cons_self ▸ .off
          obtain rfl : next = false := Answers.flag hheld hentry.value htake
          exact ih hrest hfills
      | pass _ _ hfills => exact ih hrest hfills

theorem answers_noFillers {origin : Origin} :
    Answers origin .noFillers (optionsAssembly.read origin false) false := by
  intro room source document value hheld hshows hread
  cases hheld with
  | noFillersMembers hoff =>
      cases hshows with
      | lost => cases hread
      | object hmembers =>
          rw [membersShow_iff] at hmembers
          simp only [Assembly.read, resolved, Ending.check, bind_eq_ok, ok_bind] at hread
          obtain ⟨last, htaken, hcomplete⟩ := hread
          cases hcomplete
          exact eq_false_of_fills hmembers hoff
            (fills_of_takeEntries optionsAssembly_isRegular hmembers htaken)
  | noFillersItems hoff =>
      cases hshows with
      | lost => cases hread
      | array hitems =>
          simp only [Assembly.read, resolved] at hread
          split at hread
          next => cases hread
          next =>
            obtain ⟨⟨last, surplus⟩, htaken, hread⟩ := bind_eq_ok.mp hread
            obtain ⟨_, -, hcomplete⟩ := bind_eq_ok.mp hread
            cases hcomplete
            cases hitems with
            | nil =>
                cases htaken
                rfl
            | cons hitem =>
                obtain ⟨next, htake, hrest⟩ := bind_eq_ok.mp htaken
                cases hrest
                exact Answers.flag (hoff _ List.mem_cons_self ▸ .off) hitem
                  (locate_eq_ok.mp htake)

theorem mem_names {origin : Origin} {name : String} :
    name ∈ (assembly origin).shape.names ↔ name = "name" ∨ name = "description" ∨
      name = "api" ∨ name = "generate" ∨ name = "attributes" := by
  simp [assembly, Shape.names, Field.required, Field.defaulted]

theorem assembly_isRegular {origin : Origin} :
    (assembly origin).IsRegular origin .dataSource {} where
  declared name hname := by
    rcases mem_names.mp hname with rfl | rfl | rfl | rfl | rfl <;> decide
  passes _ _ hskip := by simp [assembly, skip, hskip]
  commutes name hname other hother hne value second := by
    rcases mem_names.mp hname with rfl | rfl | rfl | rfl | rfl
    all_goals rcases mem_names.mp hother with rfl | rfl | rfl | rfl | rfl
    all_goals first
      | exact absurd rfl hne
      | exact .of_put fun _ _ _ => rfl
  defaults name hname := by
    rcases mem_names.mp hname with rfl | rfl | rfl | rfl | rfl
    · exact .required
    · exact .required
    · exact .required
    · exact answers_noFillers.put _
    · exact .required

theorem assembly_isSteady {origin : Origin} (horigin : origin = .text ∨ origin = .copy) :
    (assembly origin).IsSteady origin .dataSource := by
  intro name hname draft
  rcases mem_names.mp hname with rfl | rfl | rfl | rfl | rfl
  · exact Steady.put Steady.string _
  · exact Steady.put Steady.string _
  · exact Steady.put (DataSourceApi.steady_read horigin) _
  · exact Steady.put (steady_readOptions horigin) _
  · exact Steady.put (Attribute.steady_listOfDocument horigin) _

theorem steady_ofDocument {origin : Origin} (horigin : origin = .text ∨ origin = .copy) :
    Steady origin .dataSource (ofDocument origin) :=
  assembly_isRegular.steady_read (assembly_isSteady horigin) horigin (by decide)
    fun place field hplace => by
      rcases place with _ | _ | _ | _ | _ | place <;> cases hplace <;> rfl

end DataSource

namespace Operation

theorem mem_names {name : String} :
    name ∈ assembly.shape.names ↔ name = "method" ∨ name = "request_attributes" := by
  simp [assembly, Shape.names, Field.required, Field.defaulted]

theorem assembly_isRegular {origin : Origin} : assembly.IsRegular origin .operation {} where
  declared := by decide
  passes _ _ hskip := by simp [assembly, skip, hskip]
  commutes name hname other hother hne value second := by
    rcases mem_names.mp hname with rfl | rfl
    all_goals rcases mem_names.mp hother with rfl | rfl
    all_goals first
      | exact absurd rfl hne
      | exact .of_put fun _ _ _ => rfl
  defaults name hname := by
    rcases mem_names.mp hname with rfl | rfl
    · exact .required
    · exact Answers.list.put _

theorem assembly_isSteady {origin : Origin} : assembly.IsSteady origin .operation := by
  intro name hname draft
  rcases mem_names.mp hname with rfl | rfl
  · exact Steady.put Steady.string _
  · exact Steady.put (Steady.strings (by decide)) _

theorem steady_ofDocument {origin : Origin} (horigin : origin = .text ∨ origin = .copy) :
    Steady origin .operation (ofDocument origin) :=
  assembly_isRegular.steady_read assembly_isSteady horigin (by decide)
    fun place field hplace => by rcases place with _ | _ | place <;> cases hplace <;> rfl

end Operation

namespace ListRead

theorem mem_names {name : String} :
    name ∈ assembly.shape.names ↔ name = "read_model" ∨ name = "cursor_field" ∨
      name = "has_more_field" ∨ name = "page_limit" ∨ name = "retry_attempts" ∨
      name = "retry_delay_secs" ∨ name = "init_loop" ∨ name = "pre_iterate" ∨
      name = "post_iterate" := by
  simp [assembly, Shape.names, Field.defaulted]

theorem assembly_isRegular {origin : Origin} : assembly.IsRegular origin .listRead {} where
  declared := by decide
  passes _ _ hskip := by simp [assembly, skip, hskip]
  commutes name hname other hother hne value second := by
    rcases mem_names.mp hname with rfl | rfl | rfl | rfl | rfl | rfl | rfl | rfl | rfl
    all_goals rcases mem_names.mp hother with rfl | rfl | rfl | rfl | rfl | rfl | rfl | rfl | rfl
    all_goals first
      | exact absurd rfl hne
      | exact .of_put fun _ _ _ => rfl
  defaults name hname := by
    rcases mem_names.mp hname with rfl | rfl | rfl | rfl | rfl | rfl | rfl | rfl | rfl
    · exact Answers.optionally.put _
    · exact Answers.string.put _
    · exact Answers.string.put _
    · exact (Answers.natural.map _).put _
    · exact (Answers.natural.map _).put _
    · exact (Answers.natural.map _).put _
    · exact Answers.optionally.put _
    · exact Answers.optionally.put _
    · exact Answers.optionally.put _

theorem assembly_isSteady {origin : Origin} : assembly.IsSteady origin .listRead := by
  intro name hname draft
  rcases mem_names.mp hname with rfl | rfl | rfl | rfl | rfl | rfl | rfl | rfl | rfl
  · exact Steady.put (Steady.optionally Steady.string) _
  · exact Steady.put Steady.string _
  · exact Steady.put Steady.string _
  · exact Steady.put (Steady.map (Steady.natural _ _) _) _
  · exact Steady.put (Steady.map (Steady.natural _ _) _) _
  · exact Steady.put (Steady.map (Steady.natural _ _) _) _
  · exact Steady.put (Steady.optionally Steady.string) _
  · exact Steady.put (Steady.optionally Steady.string) _
  · exact Steady.put (Steady.optionally Steady.string) _

theorem steady_ofDocument {origin : Origin} (horigin : origin = .text ∨ origin = .copy) :
    Steady origin .listRead (ofDocument origin) :=
  assembly_isRegular.steady_read assembly_isSteady horigin (by decide)
    fun place field hplace => by
      rcases place with _ | _ | _ | _ | _ | _ | _ | _ | _ | place <;> cases hplace <;> rfl

end ListRead

namespace ResourceApi

theorem mem_names {origin : Origin} {name : String} :
    name ∈ (assembly origin).shape.names ↔ name = "model" ∨ name = "create" ∨ name = "read" ∨
      name = "paginated_read" ∨ name = "update" ∨ name = "delete" := by
  simp [assembly, Shape.names, Field.required, Field.defaulted]

theorem assembly_isRegular {origin : Origin} :
    (assembly origin).IsRegular origin .resourceApi {} where
  declared name hname := by
    rcases mem_names.mp hname with rfl | rfl | rfl | rfl | rfl | rfl <;> decide
  passes _ _ hskip := by simp [assembly, skip, hskip]
  commutes name hname other hother hne value second := by
    rcases mem_names.mp hname with rfl | rfl | rfl | rfl | rfl | rfl
    all_goals rcases mem_names.mp hother with rfl | rfl | rfl | rfl | rfl | rfl
    all_goals first
      | exact absurd rfl hne
      | exact .of_put fun _ _ _ => rfl
  defaults name hname := by
    rcases mem_names.mp hname with rfl | rfl | rfl | rfl | rfl | rfl
    · exact Answers.optionally.put _
    · exact .required
    · exact .required
    · exact Answers.optionally.put _
    · exact Answers.optionally.put _
    · exact Answers.optionally.put _

theorem assembly_isSteady {origin : Origin} (horigin : origin = .text ∨ origin = .copy) :
    (assembly origin).IsSteady origin .resourceApi := by
  intro name hname draft
  rcases mem_names.mp hname with rfl | rfl | rfl | rfl | rfl | rfl
  · exact Steady.put (Steady.optionally Steady.string) _
  · exact Steady.put (Operation.steady_ofDocument horigin) _
  · exact Steady.put (Operation.steady_ofDocument horigin) _
  · exact Steady.put (Steady.optionally (ListRead.steady_ofDocument horigin)) _
  · exact Steady.put (Steady.optionally (Operation.steady_ofDocument horigin)) _
  · exact Steady.put (Steady.optionally (Operation.steady_ofDocument horigin)) _

theorem steady_read {origin : Origin} (horigin : origin = .text ∨ origin = .copy) :
    Steady origin .resourceApi ((assembly origin).read origin {}) :=
  assembly_isRegular.steady_read (assembly_isSteady horigin) horigin (by decide)
    fun place field hplace => by
      rcases place with _ | _ | _ | _ | _ | _ | place <;> cases hplace <;> rfl

end ResourceApi

namespace Resource

theorem mem_names {origin : Origin} {name : String} :
    name ∈ (assembly origin).shape.names ↔ name = "name" ∨ name = "description" ∨
      name = "api" ∨ name = "import_state_attributes" ∨ name = "attributes" := by
  simp [assembly, Shape.names, Field.required, Field.defaulted]

theorem assembly_isRegular {origin : Origin} :
    (assembly origin).IsRegular origin .resource {} where
  declared name hname := by
    rcases mem_names.mp hname with rfl | rfl | rfl | rfl | rfl <;> decide
  passes _ _ hskip := by simp [assembly, skip, hskip]
  commutes name hname other hother hne value second := by
    rcases mem_names.mp hname with rfl | rfl | rfl | rfl | rfl
    all_goals rcases mem_names.mp hother with rfl | rfl | rfl | rfl | rfl
    all_goals first
      | exact absurd rfl hne
      | exact .of_put fun _ _ _ => rfl
  defaults name hname := by
    rcases mem_names.mp hname with rfl | rfl | rfl | rfl | rfl
    · exact .required
    · exact .required
    · exact .required
    · exact Answers.list.put _
    · exact .required

theorem assembly_isSteady {origin : Origin} (horigin : origin = .text ∨ origin = .copy) :
    (assembly origin).IsSteady origin .resource := by
  intro name hname draft
  rcases mem_names.mp hname with rfl | rfl | rfl | rfl | rfl
  · exact Steady.put Steady.string _
  · exact Steady.put Steady.string _
  · exact Steady.put (ResourceApi.steady_read horigin) _
  · exact Steady.put (Steady.strings (by decide)) _
  · exact Steady.put (Attribute.steady_listOfDocument horigin) _

theorem steady_ofDocument {origin : Origin} (horigin : origin = .text ∨ origin = .copy) :
    Steady origin .resource (ofDocument origin) :=
  assembly_isRegular.steady_read (assembly_isSteady horigin) horigin (by decide)
    fun place field hplace => by
      rcases place with _ | _ | _ | _ | _ | place <;> cases hplace <;> rfl

end Resource

namespace Definitions

theorem mem_names {origin : Origin} {name : String} :
    name ∈ (assembly origin).shape.names ↔ name = "data_sources" ∨ name = "resources" := by
  simp [assembly, Shape.names, Field.defaulted]

theorem assembly_isRegular {origin : Origin} :
    (assembly origin).IsRegular origin .definitions {} where
  declared name hname := by
    rcases mem_names.mp hname with rfl | rfl <;> decide
  passes _ _ hskip := by simp [assembly, skip, hskip]
  commutes name hname other hother hne value second := by
    rcases mem_names.mp hname with rfl | rfl
    all_goals rcases mem_names.mp hother with rfl | rfl
    all_goals first
      | exact absurd rfl hne
      | exact .of_put fun _ _ _ => rfl
  defaults name hname := by
    rcases mem_names.mp hname with rfl | rfl
    · exact Answers.list.put _
    · exact Answers.list.put _

theorem assembly_isSteady {origin : Origin} (horigin : origin = .text ∨ origin = .copy) :
    (assembly origin).IsSteady origin .definitions := by
  intro name hname draft
  rcases mem_names.mp hname with rfl | rfl
  · exact Steady.put (Steady.list (by decide) fun _ => DataSource.steady_ofDocument horigin) _
  · exact Steady.put (Steady.list (by decide) fun _ => Resource.steady_ofDocument horigin) _

theorem steady_ofDocument {origin : Origin} (horigin : origin = .text ∨ origin = .copy) :
    Steady origin .definitions (ofDocument origin) :=
  assembly_isRegular.steady_read (assembly_isSteady horigin) horigin (by decide)
    fun place field hplace => by rcases place with _ | _ | place <;> cases hplace <;> rfl

end Definitions

end ProviderForge

import ProviderForge.Definition.Decode
import ProviderForge.Proofs.Definition.SteadyChoice

namespace ProviderForge

open Json (Source)
open Json.Source (IsUsable)
open Document Result Assembly

theorem Requiredness.steady_ofDocument {origin : Origin}
    (horigin : origin = .text ∨ origin = .copy) :
    Steady origin .choice (Requiredness.ofDocument origin) :=
  Steady.put (Steady.choice horigin _) _

theorem ElementType.steady_ofDocument : Steady .copy .choice (ElementType.ofDocument .copy) :=
  Steady.put (Steady.choice (.inr rfl) _) _

theorem SourceForm.steady_ofDocument {origin : Origin}
    (horigin : origin = .text ∨ origin = .copy) :
    Steady origin .choice (SourceForm.ofDocument origin) :=
  Steady.put (Steady.choice horigin _) _

namespace Attribute

namespace Draft

theorem mem_names {name : String} :
    name ∈ shape.names ↔ name = "name" ∨ name = "description" ∨ name = "deprecation_message" ∨
      name = "computed_optional_required" ∨ name = "sensitive" ∨ name = "validators" ∨
      name = "plan_modifiers" ∨ name = "nullable" ∨ name = "source_attribute" ∨
      name = "source_type" ∨ name = "destination_attribute" ∨ name = "skip_fill" ∨
      name = "custom_fill" := by
  simp [shape, Shape.names, Field.required, Field.defaulted]

def optionsAssembly (origin : Origin) : Assembly Draft Draft where
  shape := shape
  take := take origin
  complete := .ok

theorem optionsAssembly_isRegular {origin : Origin} :
    (optionsAssembly origin).IsRegular origin .attributeRecord {} where
  declared := show ∀ name ∈ Draft.shape.names, _ by decide
  passes _ _ hskip := by simp [optionsAssembly, skip, hskip]
  commutes name hname other hother hne value second := by
    rcases mem_names.mp hname with
      rfl | rfl | rfl | rfl | rfl | rfl | rfl | rfl | rfl | rfl | rfl | rfl | rfl
    all_goals
      rcases mem_names.mp hother with
        rfl | rfl | rfl | rfl | rfl | rfl | rfl | rfl | rfl | rfl | rfl | rfl | rfl
    all_goals first
      | exact absurd rfl hne
      | exact .of_put fun _ _ _ => rfl
  defaults name hname := by
    rcases mem_names.mp hname with
      rfl | rfl | rfl | rfl | rfl | rfl | rfl | rfl | rfl | rfl | rfl | rfl | rfl
    · exact .required
    · exact .required
    · exact Answers.optionally.put _
    · exact .required
    · exact Answers.flag.put _
    · exact Answers.list.put _
    · exact Answers.list.put _
    · exact Answers.flag.put _
    · exact Answers.optionally.put _
    · exact Answers.optionally.put _
    · exact Answers.optionally.put _
    · exact Answers.flag.put _
    · exact Answers.optionally.put _

theorem optionsAssembly_isSteady {origin : Origin} (horigin : origin = .text ∨ origin = .copy) :
    (optionsAssembly origin).IsSteady origin .attributeRecord := by
  intro name hname draft
  have hstrings : Steady origin .any Document.strings := Steady.strings (by decide)
  rcases mem_names.mp hname with
    rfl | rfl | rfl | rfl | rfl | rfl | rfl | rfl | rfl | rfl | rfl | rfl | rfl
  · exact Steady.put Steady.string _
  · exact Steady.put Steady.string _
  · exact Steady.put (Steady.optionally Steady.string) _
  · exact Steady.put (Requiredness.steady_ofDocument horigin) _
  · exact Steady.put Steady.flag _
  · exact Steady.put hstrings _
  · exact Steady.put hstrings _
  · exact Steady.put Steady.flag _
  · exact Steady.put (Steady.optionally hstrings) _
  · exact Steady.put (Steady.optionally (SourceForm.steady_ofDocument horigin)) _
  · exact Steady.put (Steady.optionally hstrings) _
  · exact Steady.put Steady.flag _
  · exact Steady.put (Steady.optionally Steady.string) _

def withOthers (others : List (Entry Document)) (draft : Draft) : Draft :=
  { draft with others := others }

theorem take_withOthers {origin : Origin} {others : List (Entry Document)} {draft : Draft}
    {name : String} {value : Document} :
    take origin (draft.withOthers others) name value =
      withOthers others <$> take origin draft name value := by
  unfold take
  split <;> simp only [map_bind, map_pure] <;> rfl

theorem others_of_take {origin : Origin} {draft next : Draft} {name : String} {value : Document}
    (htake : take origin draft name value = .ok next) : next.others = draft.others := by
  have hsame := @take_withOthers origin draft.others draft name value
  rw [show draft.withOthers draft.others = draft from rfl, htake] at hsame
  have hnext : next = next.withOthers draft.others := Except.ok.inj hsame
  rw [hnext]
  rfl

@[simp] theorem others_withOthers {others : List (Entry Document)} {draft : Draft} :
    (draft.withOthers others).others = others := rfl

/-- Whether a member is no option, so that it tells the shape of the attribute. -/
def tellsShape (name : Option String) : Bool :=
  !name.any shape.names.contains

theorem filter_of_option {name : String} (hname : name ∈ shape.names) {value : Source}
    {members : List (Option String × Source)} :
    ((some name, value) :: members).filter (tellsShape ·.1) = members.filter (tellsShape ·.1) := by
  simp [tellsShape, hname]

theorem filter_of_other {name : String} (hname : name ∉ shape.names) {value : Source}
    {members : List (Option String × Source)} :
    ((some name, value) :: members).filter (tellsShape ·.1) =
      (some name, value) :: members.filter (tellsShape ·.1) := by
  simp [tellsShape, hname]

theorem keep_eq {origin : Origin} {room : Nat} {name : String} {value : Source}
    {entry : Entry Document} (hentry : EntryShows origin room (some name, value) entry)
    (draft : Draft) :
    draft.keep entry = entry.value.copied >>= fun copy =>
      pure (draft.withOthers (⟨ofAtom (.string name), copy, none, none⟩ :: draft.others)) := by
  obtain ⟨_, _, hkey⟩ := hentry.key.of_atom
  rw [keep, hkey]
  rfl

section

variable {origin : Origin} {room : Nat} {readChildren : Document → Except Fault (List Attribute)}

/-- The options are taken as a record of their own, and the other members are copied. -/
theorem fills_of_takeEntries {members : List (Option String × Source)}
    {entries : List (Entry Document)}
    (hshow : List.Forall₂ (EntryShows origin room) members entries) {seen : List String}
    {draft last : Draft}
    (htaken : (assembly origin readChildren).takeEntries origin entries seen draft = .ok last) :
    (∀ member ∈ members, ∃ name, member.1 = some name) ∧
      (∀ member ∈ members.filter (tellsShape ·.1), IsUsable room member.2) ∧
      ∃ filled copies, last = filled.withOthers (copies.reverse ++ draft.others) ∧
        (optionsAssembly origin).Fills origin entries seen (draft.withOthers []) filled ∧
        MembersShow .copy room (members.filter (tellsShape ·.1)) copies := by
  induction hshow generalizing seen draft with
  | nil =>
      cases htaken
      exact ⟨List.forall_mem_nil _, List.forall_mem_nil _, last.withOthers [], [], rfl, .nil, .nil⟩
  | @cons member entry members entries hentry _ ih =>
      rw [takeEntries, bind_eq_ok] at htaken
      obtain ⟨found, hfield, htaken⟩ := htaken
      obtain ⟨name, value⟩ := member
      obtain ⟨text, rfl⟩ := hentry.exists_name hfield
      cases found with
      | some name =>
          obtain ⟨hname, hown⟩ := hentry.of_field hfield
          obtain rfl : text = name := Option.some.inj hname
          simp only at htaken
          split at htaken
          next => cases htaken
          next hfresh =>
            rw [bind_eq_ok] at htaken
            obtain ⟨next, htake, hrest⟩ := htaken
            have htake : take origin draft text entry.value = .ok next := locate_eq_ok.mp htake
            obtain ⟨hnames, husable, filled, copies, hlast, hfills, hcopies⟩ := ih hrest
            rw [others_of_take htake] at hlast
            rw [filter_of_option hown]
            refine ⟨List.forall_mem_cons.mpr ⟨⟨text, rfl⟩, hnames⟩, husable, filled, copies, hlast,
              .take hfield hown (by simpa using hfresh) ?_ hfills, hcopies⟩
            change take origin (draft.withOthers []) text entry.value = _
            rw [take_withOthers, htake]
            rfl
      | none =>
          simp only [bind_eq_ok, locate_eq_ok, assembly, keep_eq hentry, pure_eq_ok] at htaken
          obtain ⟨_, ⟨copy, hcopy, rfl⟩, hrest⟩ := htaken
          obtain ⟨hnames, husable, filled, copies, hlast, hfills, hcopies⟩ := ih hrest
          obtain ⟨husableValue, hvalueShows⟩ := hentry.value.of_copied hcopy
          rw [filter_of_other (hentry.not_mem_of_field hfield)]
          refine ⟨List.forall_mem_cons.mpr ⟨⟨text, rfl⟩, hnames⟩,
            List.forall_mem_cons.mpr ⟨husableValue, husable⟩, filled,
            ⟨ofAtom (.string text), copy, none, none⟩ :: copies, ?_,
            .pass hfield hentry.value.skipFault?_eq hfills, .cons .scalar hvalueShows hcopies⟩
          rw [hlast, List.reverse_cons, List.append_assoc]
          rfl

theorem takeEntries_of_fills {members : List (Option String × Source)}
    {entries : List (Entry Document)}
    (hshow : List.Forall₂ (EntryShows origin room) members entries)
    (hnames : ∀ member ∈ members, ∃ name, member.1 = some name)
    (husable : ∀ member ∈ members.filter (tellsShape ·.1), IsUsable room member.2)
    {seen : List String} {draft filled : Draft}
    (hfills : (optionsAssembly origin).Fills origin entries seen (draft.withOthers []) filled) :
    ∃ copies, (assembly origin readChildren).takeEntries origin entries seen draft =
        .ok (filled.withOthers (copies.reverse ++ draft.others)) ∧
      MembersShow .copy room (members.filter (tellsShape ·.1)) copies := by
  induction hshow generalizing seen draft with
  | nil =>
      cases hfills
      exact ⟨[], rfl, .nil⟩
  | @cons member entry members entries hentry _ ih =>
      obtain ⟨name, value⟩ := member
      obtain ⟨⟨text, hname⟩, hrestNames⟩ := List.forall_mem_cons.mp hnames
      obtain rfl : name = some text := hname
      cases hfills with
      | @take _ _ _ _ next _ found hfield hown hfresh htake hfills =>
          obtain rfl : text = found := Option.some.inj (hentry.of_field hfield).1
          rw [filter_of_option hown] at husable ⊢
          have htaken : take origin (draft.withOthers []) text entry.value = .ok next := htake
          rw [take_withOthers, map_eq_ok] at htaken
          obtain ⟨next, hnext, rfl⟩ := htaken
          obtain ⟨copies, hrest, hcopies⟩ := ih hrestNames husable hfills
          rw [others_of_take hnext] at hrest
          refine ⟨copies, ?_, hcopies⟩
          rw [takeEntries, show (assembly origin readChildren).shape.fieldOf? _ _ = _ from hfield]
          simp only [ok_bind]
          rw [if_neg (by simpa using hfresh),
            show (assembly origin readChildren).take _ _ _ = _ from hnext]
          exact hrest
      | pass hfield _ hfills =>
          rw [filter_of_other (hentry.not_mem_of_field hfield)] at husable ⊢
          obtain ⟨husableValue, husable⟩ := List.forall_mem_cons.mp husable
          obtain ⟨copied, hcopied, hshows⟩ := hentry.value.copied husableValue
          obtain ⟨copies, hrest, hcopies⟩ := @ih hrestNames husable _
            (draft.withOthers (⟨ofAtom (.string text), copied, none, none⟩ :: draft.others)) hfills
          refine ⟨⟨ofAtom (.string text), copied, none, none⟩ :: copies, ?_,
            .cons .scalar hshows hcopies⟩
          rw [takeEntries, show (assembly origin readChildren).shape.fieldOf? _ _ = _ from hfield]
          simp only [ok_bind, assembly, keep_eq hentry, hcopied]
          rw [List.reverse_cons, List.append_assoc]
          exact hrest

end

end Draft

theorem mem_elementAssembly_names {name : String} :
    name ∈ elementAssembly.shape.names ↔ name = "element_type" := by
  simp [elementAssembly, Shape.names, Field.defaulted]

theorem elementAssembly_isRegular :
    elementAssembly.IsRegular .copy .attributeRecord (some .string) where
  declared := by decide
  passes _ _ hskip := by simp [elementAssembly, skip, hskip]
  commutes name hname other hother hne :=
    absurd ((mem_elementAssembly_names.mp hname).trans (mem_elementAssembly_names.mp hother).symm)
      hne
  defaults name hname := by
    obtain rfl := mem_elementAssembly_names.mp hname
    exact Answers.map (fun _ _ _ value _ _ _ => by cases value; rfl) some

theorem elementAssembly_isSteady : elementAssembly.IsSteady .copy .attributeRecord := by
  intro name hname draft
  obtain rfl := mem_elementAssembly_names.mp hname
  exact Steady.map ElementType.steady_ofDocument some

theorem exists_fills_element {entries : List (Entry Document)} {seen : List String}
    {draft last : Option ElementType} (hfills : elementAssembly.Fills .copy entries seen draft last)
    (other : Option ElementType) :
    ∃ result, elementAssembly.Fills .copy entries seen other result := by
  induction hfills generalizing other with
  | nil => exact ⟨other, .nil⟩
  | take hfield hname hfresh htake hrest =>
      exact ⟨_, .take hfield hname hfresh htake hrest⟩
  | pass hfield hskip _ ih =>
      obtain ⟨result, hfills⟩ := ih other
      exact ⟨result, .pass hfield hskip hfills⟩

section

variable {room : Nat} {members varied : List (Option String × Source)}
  {entries copies : List (Entry Document)} {location behind start begin : Option Location}

theorem element_follow (hvary : Rearranges .attributeRecord members varied)
    (hshow : MembersShow .copy room members entries)
    (hvaried : MembersShow .copy room varied copies) {element : ElementType}
    (hread : elementAssembly.read .copy none (.mapping none entries (.closed location) start) =
      .ok element) :
    elementAssembly.read .copy none (.mapping none copies (.closed behind) begin) =
      .ok element := by
  have hregular := elementAssembly_isRegular
  simp only [Assembly.read, resolved, Ending.check, bind_eq_ok, ok_bind] at hread ⊢
  obtain ⟨last, htaken, -⟩ := hread
  -- The first element is no other than the default one, so the reading may begin with it.
  obtain ⟨filled, hfills⟩ := exists_fills_element
    (fills_of_takeEntries hregular (membersShow_iff.mp hshow) htaken) (some .string)
  have hfilled := hregular.takeEntries_eq elementAssembly_isSteady hvary hshow hvaried
    (takeEntries_of_fills hregular hfills)
  obtain ⟨result, hresult⟩ := exists_fills_element
    (fills_of_takeEntries hregular (membersShow_iff.mp hvaried) hfilled) none
  exact ⟨result, takeEntries_of_fills hregular hresult, rfl⟩

/-- What the first request makes of children, the second makes of their variations, if they nest
less than `bound` allows. -/
def Follows (bound : Nat) (request following : Document → Except Fault (List Attribute)) : Prop :=
  ∀ ⦃document other : Document⦄ ⦃children : List Attribute⦄,
    Twins .copy (.list .attributeRecord) document other → other.depth < bound →
      request document = .ok children → following other = .ok children

theorem mem_nestedAssembly_names {readChildren : Document → Except Fault (List Attribute)}
    {name : String} :
    name ∈ (nestedAssembly readChildren).shape.names ↔ name = "attributes" ∨ name = "model" := by
  simp [nestedAssembly, Shape.names, Field.required]

theorem nestedAssembly_isRegular (readChildren : Document → Except Fault (List Attribute)) :
    (nestedAssembly readChildren).IsRegular .copy .attributeRecord {} where
  declared name hname := by
    rcases mem_nestedAssembly_names.mp hname with rfl | rfl <;> decide
  passes _ _ hskip := by simp [nestedAssembly, skip, hskip]
  commutes name hname other hother hne value second := by
    rcases mem_nestedAssembly_names.mp hname with rfl | rfl <;>
      rcases mem_nestedAssembly_names.mp hother with rfl | rfl
    all_goals first
      | exact absurd rfl hne
      | exact .of_put fun _ _ _ => rfl
  defaults name hname := by
    rcases mem_nestedAssembly_names.mp hname with rfl | rfl
    · exact .required
    · exact .required

variable {bound : Nat} {readChildren following : Document → Except Fault (List Attribute)}

theorem nested_follow (hfollows : Follows bound readChildren following)
    (hvary : Rearranges .attributeRecord members varied)
    (hshow : MembersShow .copy room members entries)
    (hvaried : MembersShow .copy room varied copies)
    (hdepth : ∀ member ∈ varied, member.2.depth room < bound) {result : List Attribute × String}
    (hread : (nestedAssembly readChildren).read .copy {}
      (.mapping none entries (.closed location) start) = .ok result) :
    (nestedAssembly following).read .copy {} (.mapping none copies (.closed behind) begin) =
      .ok result := by
  simp only [Assembly.read, resolved, Ending.check, bind_eq_ok, ok_bind, locate_eq_ok] at hread ⊢
  obtain ⟨last, htaken, hcomplete⟩ := hread
  refine ⟨last, ?_, hcomplete⟩
  refine (nestedAssembly_isRegular readChildren).takeEntries_follow
    (nestedAssembly_isRegular following) rfl hvary hshow hvaried ?_ htaken
  intro copy hcopy name hname draft next document htwins htake
  rcases mem_nestedAssembly_names.mp hname with rfl | rfl
  · obtain ⟨children, hchildren, hnext⟩ := bind_eq_ok.mp htake
    obtain ⟨member, hmember, hentry⟩ := hvaried.exists_member hcopy
    have hless : copy.value.depth < bound := hentry.value.depth_eq ▸ hdepth member hmember
    exact bind_eq_ok.mpr ⟨children, hfollows htwins hless hchildren, hnext⟩
  · exact Steady.put Steady.string _ htwins htake

theorem ofParts_follow (hfollows : Follows bound readChildren following)
    (hvary : Rearranges .attributeRecord members varied)
    (hshow : MembersShow .copy room members entries)
    (hvaried : MembersShow .copy room varied copies)
    (hdepth : ∀ member ∈ varied, member.2.depth room < bound) {options : AttributeOptions}
    {result : Attribute} (hread : ofParts readChildren options entries = .ok result) :
    ofParts following options copies = .ok result := by
  simp only [ofParts, bind_eq_ok, Prod.exists] at hread ⊢
  obtain ⟨chosen, others, hsplit, name, hname, hshape⟩ := hread
  obtain ⟨hothers, rest, hrest, hrestShow⟩ :=
    splitChoice_follow (by decide) rfl hvary hshow hvaried hsplit
  refine ⟨chosen, rest, hrest, name, hname, ?_⟩
  have hvaryRest := hvary.filter (isOther "type")
  generalize (AttributeKind.ofName? name).getD default = kind at hshape ⊢
  cases kind with
  | string => exact hshape
  | int => exact hshape
  | bool => exact hshape
  | object => exact hshape
  | list =>
      simp only [bind_eq_ok] at hshape ⊢
      obtain ⟨element, helement, hshape⟩ := hshape
      exact ⟨element, element_follow hvaryRest hothers hrestShow helement, hshape⟩
  | set =>
      simp only [bind_eq_ok] at hshape ⊢
      obtain ⟨element, helement, hshape⟩ := hshape
      exact ⟨element, element_follow hvaryRest hothers hrestShow helement, hshape⟩
  | setNested =>
      simp only [bind_eq_ok] at hshape ⊢
      obtain ⟨nested, hnested, hshape⟩ := hshape
      exact ⟨nested, nested_follow hfollows hvaryRest hothers hrestShow
        (fun member hmem => hdepth member (List.mem_of_mem_filter hmem)) hnested, hshape⟩

theorem read_mapping_follow {origin : Origin} (horigin : origin = .text ∨ origin = .copy)
    (hfollows : Follows bound readChildren following)
    (hvary : Rearranges .attributeRecord members varied)
    (hmembers : MembersShow origin room members entries)
    (hothers : MembersShow origin room varied copies)
    (hdepth : ∀ member ∈ varied, member.2.depth room < bound) {result : Attribute}
    (hread : (assembly origin readChildren).read origin {}
      (.mapping none entries (.closed location) start) = .ok result) :
    (assembly origin following).read origin {} (.mapping none copies (.closed behind) begin) =
      .ok result := by
  have hregular := @Draft.optionsAssembly_isRegular origin
  simp only [Assembly.read, resolved, Ending.check, bind_eq_ok, ok_bind, locate_eq_ok] at hread ⊢
  obtain ⟨last, htaken, hcomplete⟩ := hread
  obtain ⟨hnames, husable, filled, parts, rfl, hfills, hparts⟩ :=
    Draft.fills_of_takeEntries (membersShow_iff.mp hmembers) htaken
  have hfilled := hregular.takeEntries_eq (Draft.optionsAssembly_isSteady horigin) hvary hmembers
    hothers (takeEntries_of_fills hregular hfills)
  rw [membersShow_iff] at hothers
  obtain ⟨rest, hrest, hrestShow⟩ := @Draft.takeEntries_of_fills _ _ _ _ _ hothers
    (hvary.named hnames) ((hvary.filter Draft.tellsShape).usable husable) _ {} _
    (fills_of_takeEntries hregular hothers hfilled)
  obtain ⟨options, hoptions, hshape⟩ := bind_eq_ok.mp hcomplete
  refine ⟨_, hrest, bind_eq_ok.mpr ⟨options, hoptions, ?_⟩⟩
  simp only [Draft.others_withOthers, List.append_nil, List.reverse_reverse] at hshape ⊢
  exact ofParts_follow hfollows (hvary.filter Draft.tellsShape) hparts hrestShow
    (fun member hmem => hdepth member (List.mem_of_mem_filter hmem)) hshape

end

theorem follows_of_attributes {fuel bound : Nat}
    (hattributes : ∀ ⦃document other : Document⦄ ⦃result : Attribute⦄,
      Twins .copy .attributeRecord document other → other.depth < bound →
        ofDocumentWithin fuel .copy document = .ok result →
        ofDocumentWithin bound .copy other = .ok result) :
    Follows bound (Document.list (ofDocumentWithin fuel .copy))
      (Document.list (ofDocumentWithin bound .copy)) := by
  intro document other children htwins hdepth hread
  cases htwins with
  | scalar => cases hread
  | @sequence _ _ _ _ copies _ _ _ _ hitems hothers hvaries =>
      simp only [Document.list, resolved, bind_eq_ok, pure_eq_ok] at hread ⊢
      obtain ⟨values, hvalues, _, -, rfl⟩ := hread
      refine ⟨values, Steady.listItems (hvaries.itemsVary (by decide)) hitems hothers ?_ hvalues,
        _, rfl, rfl⟩
      intro copy hcopy index document value htwins hvalue
      have hless : copy.value.depth ≤ itemsDepth copies := depth_le_of_mem hcopy
      rw [Document.depth] at hdepth
      exact hattributes htwins (by omega) hvalue
  | mapping => cases hread
  | unusable => cases hread

theorem ofDocumentWithin_follow {fuel more : Nat} {origin : Origin}
    (horigin : origin = .text ∨ origin = .copy) {document other : Document} {result : Attribute}
    (htwins : Twins origin .attributeRecord document other) (hdepth : other.depth < more)
    (hread : ofDocumentWithin fuel origin document = .ok result) :
    ofDocumentWithin more origin other = .ok result := by
  induction fuel generalizing more origin document other result with
  | zero => cases hread
  | succ fuel ih =>
      cases more with
      | zero => exact absurd hdepth (Nat.not_lt_zero _)
      | succ more =>
          cases htwins with
          | scalar => cases hread
          | sequence => cases origin <;> cases hread
          | mapping hmembers hothers hvaries =>
              rw [Document.depth, hothers.depth_eq] at hdepth
              refine read_mapping_follow horigin
                (follows_of_attributes fun _ _ _ => ih (.inr rfl))
                (hvaries.rearranges (by decide)) hmembers hothers (fun member hmem => ?_) hread
              exact Nat.lt_of_le_of_lt (Source.depth_le_of_mem_members hmem)
                (Nat.lt_of_succ_lt_succ hdepth)
          | unusable => cases hread

theorem steady_ofDocument {origin : Origin} (horigin : origin = .text ∨ origin = .copy) :
    Steady origin .attributeRecord (ofDocument origin) :=
  fun _ _ _ htwins hread => ofDocumentWithin_follow horigin htwins (Nat.lt_succ_self _) hread

theorem steady_listOfDocument {origin : Origin} (horigin : origin = .text ∨ origin = .copy) :
    Steady origin (.list .attributeRecord) (listOfDocument origin) :=
  Steady.list (by decide) fun _ => steady_ofDocument horigin

end Attribute

end ProviderForge

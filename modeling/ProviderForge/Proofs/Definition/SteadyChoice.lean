import ProviderForge.Proofs.Definition.SteadyRecord

namespace ProviderForge.Document

open Json (Source)
open Json.Source (IsUsable)
open Result Assembly

variable {origin : Origin} {room : Nat} {tagName : String} {known : List String}

/-- The name of a choice as the field of a record. -/
def tagAssembly (origin : Origin) (tagName : String) (known : List String) :
    Assembly (Option String) (Option String) where
  shape := ⟨tagName, [.required tagName], false⟩
  take _ _ value := some <$> variantName origin known value
  pass chosen _ := .ok chosen
  complete := .ok

theorem mem_tagAssembly_names {name : String} :
    name ∈ (tagAssembly origin tagName known).shape.names ↔ name = tagName := by
  simp [tagAssembly, Shape.names, Field.required]

theorem tagAssembly_isRegular {slot : Slot} (htag : tagName ∈ slot.names)
    (hrequired : slot.default tagName = .required) :
    (tagAssembly origin tagName known).IsRegular origin slot none where
  declared name hname := mem_tagAssembly_names.mp hname ▸ htag
  passes _ _ _ := rfl
  commutes name hname other hother hne :=
    absurd ((mem_tagAssembly_names.mp hname).trans (mem_tagAssembly_names.mp hother).symm) hne
  defaults name hname := by
    rw [mem_tagAssembly_names.mp hname, hrequired]
    exact .required

theorem tagAssembly_isSteady (slot : Slot) :
    (tagAssembly origin tagName known).IsSteady origin slot :=
  fun _ _ _ => Steady.map (Steady.variantName known) some

def isOther (tagName : String) (name : Option String) : Bool :=
  name != some tagName

theorem EntryShows.copied_key {name : String} {value : Source} {entry : Entry Document}
    (hshows : EntryShows origin room (some name, value) entry) :
    entry.key.copied = .ok (.ofAtom (.string name)) := by
  obtain ⟨_, _, hkey⟩ := hshows.key.of_atom
  rw [hkey]
  rfl

theorem EntryShows.exists_name_of_copied {member : Option String × Source} {entry : Entry Document}
    (hshows : EntryShows origin room member entry) {key : Document}
    (hcopied : entry.key.copied = .ok key) : ∃ name, member.1 = some name := by
  obtain ⟨name, value⟩ := member
  cases name with
  | some name => exact ⟨name, rfl⟩
  | none => cases (hshows.key.of_copied hcopied).1

section

variable {name : String} {value : Source} {entry : Entry Document}

theorem splitChoice_tag (hentry : EntryShows origin room (some tagName, value) entry)
    (entries : List (Entry Document)) (chosen : Option String) :
    splitChoice origin tagName known (entry :: entries) chosen =
      if chosen.isSome then .error ⟨.duplicateField tagName, entry.afterKey⟩
      else locate entry.afterValue (variantName origin known entry.value) >>= fun name =>
        splitChoice origin tagName known entries (some name) := by
  rw [splitChoice, hentry.copied_key, locate_ok, ok_bind]
  exact if_pos rfl

theorem splitChoice_other (hentry : EntryShows origin room (some name, value) entry)
    (hother : name ≠ tagName) (entries : List (Entry Document)) (chosen : Option String) :
    splitChoice origin tagName known (entry :: entries) chosen = do
      let copy ← locate entry.afterValue entry.value.copied
      let (chosen, others) ← splitChoice origin tagName known entries chosen
      return (chosen, ⟨.ofAtom (.string name), copy, none, none⟩ :: others) := by
  rw [splitChoice, hentry.copied_key, locate_ok, ok_bind]
  exact if_neg hother

theorem filter_tag (members : List (Option String × Source)) :
    ((some tagName, value) :: members).filter (isOther tagName ·.1) =
      members.filter (isOther tagName ·.1) := by
  simp [isOther]

theorem filter_other (hother : name ≠ tagName) (members : List (Option String × Source)) :
    ((some name, value) :: members).filter (isOther tagName ·.1) =
      (some name, value) :: members.filter (isOther tagName ·.1) := by
  simp [isOther, hother]

end

theorem fills_of_splitChoice {members : List (Option String × Source)}
    {entries : List (Entry Document)}
    (hshow : List.Forall₂ (EntryShows origin room) members entries)
    {chosen result : Option String} {others : List (Entry Document)}
    (hsplit : splitChoice origin tagName known entries chosen = .ok (result, others)) :
    (tagAssembly origin tagName known).Fills origin entries
        (if chosen.isSome then [tagName] else []) chosen result ∧
      (∀ member ∈ members, ∃ name, member.1 = some name) ∧
      (∀ member ∈ members.filter (isOther tagName ·.1), IsUsable room member.2) ∧
      MembersShow .copy room (members.filter (isOther tagName ·.1)) others := by
  induction hshow generalizing chosen result others with
  | nil =>
      cases hsplit
      exact ⟨.nil, List.forall_mem_nil _, List.forall_mem_nil _, .nil⟩
  | @cons member entry members entries hentry _ ih =>
      obtain ⟨name, value⟩ := member
      obtain ⟨text, rfl⟩ : ∃ text, name = some text := by
        obtain ⟨key, hkey, -⟩ := bind_eq_ok.mp hsplit
        exact hentry.exists_name_of_copied (locate_eq_ok.mp hkey)
      have hfield := hentry.fieldOf?_eq (tagAssembly origin tagName known).shape
      have hnames := List.contains_iff_mem.trans (@mem_tagAssembly_names origin tagName known text)
      by_cases hown : text = tagName
      · subst hown
        rw [splitChoice_tag hentry] at hsplit
        split at hsplit
        next => cases hsplit
        next hfresh =>
          rw [bind_eq_ok] at hsplit
          obtain ⟨choice, hchoice, hsplit⟩ := hsplit
          obtain ⟨hfills, hall, husable, hshown⟩ := ih hsplit
          obtain rfl : chosen = none := by simpa using hfresh
          rw [if_pos (hnames.mpr rfl)] at hfield
          rw [filter_tag]
          refine ⟨.take hfield (mem_tagAssembly_names.mpr rfl) List.not_mem_nil ?_ hfills,
            List.forall_mem_cons.mpr ⟨⟨text, rfl⟩, hall⟩, husable, hshown⟩
          change some <$> variantName origin known entry.value = _
          rw [locate_eq_ok.mp hchoice]
          rfl
      · simp only [splitChoice_other hentry hown, bind_eq_ok, locate_eq_ok, pure_eq_ok] at hsplit
        obtain ⟨copy, hcopy, ⟨later, rest⟩, hrest, heq⟩ := hsplit
        cases heq
        obtain ⟨hfills, hall, husable, hshown⟩ := ih hrest
        obtain ⟨husableValue, hvalueShows⟩ := hentry.value.of_copied hcopy
        rw [if_neg fun hmem => hown (hnames.mp hmem)] at hfield
        rw [filter_other hown]
        exact ⟨.pass hfield hentry.value.skipFault?_eq hfills,
          List.forall_mem_cons.mpr ⟨⟨text, rfl⟩, hall⟩,
          List.forall_mem_cons.mpr ⟨husableValue, husable⟩, .cons .scalar hvalueShows hshown⟩

theorem splitChoice_of_fills {members : List (Option String × Source)}
    {entries : List (Entry Document)}
    (hshow : List.Forall₂ (EntryShows origin room) members entries)
    (hnames : ∀ member ∈ members, ∃ name, member.1 = some name)
    (husable : ∀ member ∈ members.filter (isOther tagName ·.1), IsUsable room member.2)
    {chosen result : Option String}
    (hfills : (tagAssembly origin tagName known).Fills origin entries
      (if chosen.isSome then [tagName] else []) chosen result) :
    ∃ others, splitChoice origin tagName known entries chosen = .ok (result, others) ∧
      MembersShow .copy room (members.filter (isOther tagName ·.1)) others := by
  induction hshow generalizing chosen result with
  | nil =>
      cases hfills
      exact ⟨[], rfl, .nil⟩
  | @cons member entry members entries hentry _ ih =>
      obtain ⟨name, value⟩ := member
      obtain ⟨⟨text, hname⟩, hrestNames⟩ := List.forall_mem_cons.mp hnames
      obtain rfl : name = some text := hname
      cases hfills with
      | @take _ _ _ _ next _ found hfield hown hfresh htake hfills =>
          obtain rfl : text = found := Option.some.inj (hentry.of_field hfield).1
          obtain rfl := mem_tagAssembly_names.mp hown
          obtain rfl : chosen = none := by
            cases chosen with
            | none => rfl
            | some => exact absurd (List.mem_singleton_self text) hfresh
          obtain ⟨choice, hchoice, rfl⟩ := map_eq_ok.mp htake
          rw [filter_tag] at husable ⊢
          obtain ⟨others, hsplit, hothers⟩ :=
            @ih hrestNames husable (some choice) _ hfills
          refine ⟨others, ?_, hothers⟩
          rw [splitChoice_tag hentry, hchoice]
          exact hsplit
      | pass hfield _ hfills =>
          have hown : text ≠ tagName := fun heq =>
            hentry.not_mem_of_field hfield (mem_tagAssembly_names.mpr heq)
          rw [filter_other hown] at husable ⊢
          obtain ⟨husableValue, husable⟩ := List.forall_mem_cons.mp husable
          obtain ⟨others, hsplit, hothers⟩ := ih hrestNames husable hfills
          obtain ⟨copied, hcopied, hshows⟩ := hentry.value.copied husableValue
          refine ⟨⟨.ofAtom (.string text), copied, none, none⟩ :: others, ?_,
            .cons .scalar hshows hothers⟩
          rw [splitChoice_other hentry hown, hcopied, locate_ok, ok_bind, hsplit]
          rfl

theorem splitChoice_follow {slot : Slot} (htag : tagName ∈ slot.names)
    (hrequired : slot.default tagName = .required) {members varied : List (Option String × Source)}
    {entries copies : List (Entry Document)} (hvary : Rearranges slot members varied)
    (hshow : MembersShow origin room members entries)
    (hvaried : MembersShow origin room varied copies) {chosen : Option String}
    {others : List (Entry Document)}
    (hsplit : splitChoice origin tagName known entries none = .ok (chosen, others)) :
    MembersShow .copy room (members.filter (isOther tagName ·.1)) others ∧
      ∃ rest, splitChoice origin tagName known copies none = .ok (chosen, rest) ∧
        MembersShow .copy room (varied.filter (isOther tagName ·.1)) rest := by
  have hregular := @tagAssembly_isRegular origin tagName known slot htag hrequired
  obtain ⟨hfills, hnames, husable, hothers⟩ :=
    fills_of_splitChoice (membersShow_iff.mp hshow) hsplit
  have htaken := hregular.takeEntries_eq (tagAssembly_isSteady slot) hvary hshow hvaried
    (takeEntries_of_fills hregular hfills)
  rw [membersShow_iff] at hvaried
  exact ⟨hothers, splitChoice_of_fills hvaried (hvary.named hnames)
    ((hvary.filter (isOther tagName)).usable husable)
    (fills_of_takeEntries hregular hvaried htaken)⟩

theorem eq_of_variantName {name found : String} {document : Document}
    (hshows : Shows origin room (.text name) document)
    (hread : variantName origin known document = .ok found) : found = name := by
  obtain ⟨_, _, rfl⟩ := hshows.of_atom
  simp only [variantName, resolved, Scalar.ofAtom, locate_eq_ok, variant] at hread
  split at hread
  next =>
    cases hread
    rfl
  next => cases hread

theorem chosen_of_mem {members : List (Option String × Source)} {entries : List (Entry Document)}
    (hshow : List.Forall₂ (EntryShows origin room) members entries) {name : String}
    (hmem : (some tagName, .text name) ∈ members) {seen : List String}
    {chosen result : Option String}
    (hfills : (tagAssembly origin tagName known).Fills origin entries seen chosen result) :
    result = some name := by
  induction hshow generalizing seen chosen with
  | nil => cases hmem
  | @cons member entry members entries hentry _ ih =>
      rcases List.mem_cons.mp hmem with rfl | hmem
      · cases hfills with
        | @take _ _ _ _ _ _ found hfield hown _ htake hfills =>
            obtain ⟨choice, hchoice, rfl⟩ := map_eq_ok.mp htake
            obtain rfl := eq_of_variantName hentry.value hchoice
            obtain rfl := mem_tagAssembly_names.mp hown
            refine hfills.eq_of_seen fun other hother => ?_
            rw [mem_tagAssembly_names.mp hother]
            exact List.mem_cons_self
        | pass hfield =>
            exact absurd (mem_tagAssembly_names.mpr rfl) (hentry.not_mem_of_field hfield)
      · cases hfills with
        | take _ _ _ _ hfills => exact ih hmem hfills
        | pass _ _ hfills => exact ih hmem hfills

/-- What belongs to a choice besides its name, of a value and of a variation. -/
inductive ContentsVary (slot : Slot) : Document → Document → Prop
  | members {room : Nat} {members varied : List (Option String × Source)}
      {entries copies : List (Entry Document)} (hvary : Rearranges slot members varied)
      (hshow : MembersShow .copy room members entries)
      (hvaried : MembersShow .copy room varied copies) :
      ContentsVary slot (.mapping none entries (.closed none) none)
        (.mapping none copies (.closed none) none)
  | items {room : Nat} {items varied : List Source} {parts copies : List (Item Document)}
      (hvary : ItemsVary slot 1 items varied) (hshow : ItemsShow .copy room items parts)
      (hvaried : ItemsShow .copy room varied copies) :
      ContentsVary slot (.sequence none parts (.closed none) none)
        (.sequence none copies (.closed none) none)

theorem taggedChoice_follow {slot : Slot} (htag : tagName ∈ slot.names)
    (hrequired : slot.default tagName = .required) (hslot : slot ≠ .choice) {typeName name : String}
    {document other content : Document} (htwins : Twins origin slot document other)
    (hread : taggedChoice origin typeName tagName known document = .ok (name, content)) :
    ∃ rest, taggedChoice origin typeName tagName known other = .ok (name, rest) ∧
      ContentsVary slot content rest := by
  cases htwins with
  | scalar => cases hread
  | sequence hitems hothers hvaries =>
      have hvary := hvaries.itemsVary hslot
      cases hvary with
      | nil =>
          cases hitems
          cases hread
      | cons hfirst hvary =>
          cases hitems with
          | cons hitem _ hitems =>
              cases hothers with
              | cons hother _ hothers =>
                  simp only [taggedChoice, resolved, Ending.check, bind_eq_ok, ok_bind,
                    locate_eq_ok, pure_eq_ok, Prod.mk.injEq] at hread ⊢
                  obtain ⟨_, hrefuse, found, hfound, copies, hcopies, rfl, rfl⟩ := hread
                  obtain ⟨husable, hshow⟩ := hitems.of_copiedItems hcopies
                  obtain ⟨rest, hrest, hrestShow⟩ := hothers.copiedItems (hvary.usable husable)
                  exact ⟨_, ⟨_, hrefuse, found,
                    Steady.variantName known (hfirst.twins hitem hother) hfound, rest, hrest, rfl,
                    rfl⟩, .items hvary hshow hrestShow⟩
  | mapping hmembers hothers hvaries =>
      have hvary := hvaries.rearranges hslot
      simp only [taggedChoice, resolved, Ending.check, bind_eq_ok, ok_bind, locate_eq_ok,
        pure_eq_ok, Prod.mk.injEq, Prod.exists] at hread ⊢
      obtain ⟨_, hrefuse, chosen, copies, hsplit, found, hfound, rfl, rfl⟩ := hread
      obtain ⟨hshow, rest, hrest, hrestShow⟩ :=
        splitChoice_follow htag hrequired hvary hmembers hothers hsplit
      exact ⟨_, ⟨_, hrefuse, chosen, rest, hrest, found, hfound, rfl, rfl⟩,
        .members (hvary.filter _) hshow hrestShow⟩
  | unusable => cases hread

theorem ContentsVary.checkPlainChoice_eq {slot : Slot} {content rest : Document}
    (hvary : ContentsVary slot content rest) :
    checkPlainChoice rest = checkPlainChoice content := by
  cases hvary with
  | members => rfl
  | @items _ _ _ parts copies hvary hshow hvaried =>
      have hlength := hvary.length_eq
      rw [hshow.length_eq, hvaried.length_eq] at hlength
      cases parts with
      | nil => rw [List.length_eq_zero_iff.mp hlength.symm]
      | cons =>
          cases copies with
          | nil => cases hlength
          | cons => rw [checkPlainChoice, checkPlainChoice, Nat.succ.inj hlength]

theorem Assembly.IsRegular.read_contents_eq {δ α : Type} {assembly : Assembly δ α} {slot : Slot}
    {initial : δ} (hregular : assembly.IsRegular .copy slot initial)
    (hsteady : assembly.IsSteady .copy slot)
    (hfields : ∀ place field, assembly.shape.fields[place]? = some field →
      slot.item (1 + place) = slot.member (some field.name))
    {content rest : Document} (hvary : ContentsVary slot content rest) {result : α}
    (hread : assembly.read .copy initial content = .ok result) :
    assembly.read .copy initial rest = .ok result := by
  cases hvary with
  | members hvary hshow hvaried => exact hregular.read_mapping_eq hsteady hvary hshow hvaried hread
  | items hvary hshow hvaried =>
      exact hsteady.read_sequence_eq (.inr rfl) hfields hvary hshow hvaried hread

end ProviderForge.Document

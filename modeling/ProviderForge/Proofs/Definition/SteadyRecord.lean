import ProviderForge.Proofs.Definition.Steady

namespace ProviderForge.Document

open Json (Source)
open Json.Source (IsPlain IsUsable)
open Result

section

variable {origin : Origin} {room : Nat} {entry : Entry Document}

theorem EntryShows.fieldOf?_eq {name : String} {value : Source}
    (hshows : EntryShows origin room (some name, value) entry) (shape : Shape) :
    shape.fieldOf? origin entry.key =
      .ok (if shape.names.contains name then some name else none) := by
  obtain ⟨_, _, hkey⟩ := hshows.key.of_atom
  rw [hkey]
  rfl

theorem EntryShows.exists_name {member : Option String × Source}
    (hshows : EntryShows origin room member entry) {shape : Shape} {found : Option String}
    (hfield : shape.fieldOf? origin entry.key = .ok found) : ∃ name, member.1 = some name := by
  obtain ⟨name, value⟩ := member
  obtain ⟨key, _, _, _⟩ := entry
  cases name with
  | some name => exact ⟨name, rfl⟩
  | none =>
      cases hshows.key with
      | lost => cases hfield

theorem EntryShows.of_field {member : Option String × Source}
    (hshows : EntryShows origin room member entry) {shape : Shape} {name : String}
    (hfield : shape.fieldOf? origin entry.key = .ok (some name)) :
    member.1 = some name ∧ name ∈ shape.names := by
  obtain ⟨key, value⟩ := member
  obtain ⟨known, rfl⟩ := hshows.exists_name hfield
  rw [hshows.fieldOf?_eq] at hfield
  split at hfield
  next hknown =>
    cases hfield
    exact ⟨rfl, by simpa using hknown⟩
  next => cases hfield

theorem EntryShows.not_mem_of_field {name : String} {value : Source}
    (hshows : EntryShows origin room (some name, value) entry) {shape : Shape}
    (hfield : shape.fieldOf? origin entry.key = .ok none) : name ∉ shape.names := by
  intro hname
  rw [hshows.fieldOf?_eq, if_pos (by simpa using hname)] at hfield
  cases hfield

end

namespace Assembly

variable {δ α : Type}

/-- The draft takes the members that have fields, each field once, and passes over the others. -/
inductive Fills (assembly : Assembly δ α) (origin : Origin) :
    List (Entry Document) → List String → δ → δ → Prop
  | nil {seen : List String} {draft : δ} : assembly.Fills origin [] seen draft draft
  | take {entry : Entry Document} {entries : List (Entry Document)} {seen : List String}
      {draft next last : δ} {name : String}
      (hfield : assembly.shape.fieldOf? origin entry.key = .ok (some name))
      (hname : name ∈ assembly.shape.names) (hfresh : name ∉ seen)
      (htake : assembly.take draft name entry.value = .ok next)
      (hrest : assembly.Fills origin entries (name :: seen) next last) :
      assembly.Fills origin (entry :: entries) seen draft last
  | pass {entry : Entry Document} {entries : List (Entry Document)} {seen : List String}
      {draft last : δ} (hfield : assembly.shape.fieldOf? origin entry.key = .ok none)
      (hskip : entry.value.skipFault? = none)
      (hrest : assembly.Fills origin entries seen draft last) :
      assembly.Fills origin (entry :: entries) seen draft last

/-- Two steps on a draft come in either order. -/
def Commute (first second : δ → Except Fault δ) : Prop :=
  ∀ ⦃draft next last : δ⦄, first draft = .ok next → second next = .ok last →
    ∃ between, second draft = .ok between ∧ first between = .ok last

theorem Commute.of_put {β γ : Type} {first : Except Fault β} {second : Except Fault γ}
    {put : β → δ → δ} {putOther : γ → δ → δ}
    (hcomm : ∀ value other draft,
      putOther other (put value draft) = put value (putOther other draft)) :
    Commute (fun draft => first >>= fun value => pure (put value draft))
      fun draft => second >>= fun other => pure (putOther other draft) := by
  intro draft next last hfirst hsecond
  obtain ⟨value, hvalue, ⟨⟩⟩ := bind_eq_ok.mp hfirst
  obtain ⟨other, hother, ⟨⟩⟩ := bind_eq_ok.mp hsecond
  exact ⟨_, bind_eq_ok.mpr ⟨other, hother, rfl⟩,
    bind_eq_ok.mpr ⟨value, hvalue, congrArg pure (hcomm value other draft).symm⟩⟩

/-- Laws of a record whose members may vary. -/
structure IsRegular (assembly : Assembly δ α) (origin : Origin) (slot : Slot) (initial : δ) :
    Prop where
  declared : ∀ name ∈ assembly.shape.names, name ∈ slot.names
  passes : ∀ draft entry, entry.value.skipFault? = none → assembly.pass draft entry = .ok draft
  commutes : ∀ name ∈ assembly.shape.names, ∀ other ∈ assembly.shape.names, name ≠ other →
    ∀ value second, Commute (assembly.take · name value) (assembly.take · other second)
  defaults : ∀ name ∈ assembly.shape.names,
    Answers origin (slot.default name) (assembly.take initial name) initial

/-- No field tells a value from its variations. -/
def IsSteady (assembly : Assembly δ α) (origin : Origin) (slot : Slot) : Prop :=
  ∀ name ∈ assembly.shape.names, ∀ draft,
    Steady origin (slot.member (some name)) (assembly.take draft name)

variable {assembly : Assembly δ α} {origin : Origin} {room : Nat}

theorem fills_of_takeEntries {slot : Slot} {initial : δ}
    (hregular : assembly.IsRegular origin slot initial)
    {members : List (Option String × Source)} {entries : List (Entry Document)}
    (hshow : List.Forall₂ (EntryShows origin room) members entries) {seen : List String}
    {draft last : δ} (htaken : assembly.takeEntries origin entries seen draft = .ok last) :
    assembly.Fills origin entries seen draft last := by
  induction hshow generalizing seen draft with
  | nil =>
      cases htaken
      exact .nil
  | @cons member entry members entries hentry _ ih =>
      rw [takeEntries, bind_eq_ok] at htaken
      obtain ⟨found, hfield, htaken⟩ := htaken
      cases found with
      | some name =>
          simp only at htaken
          split at htaken
          next => cases htaken
          next hfresh =>
            rw [bind_eq_ok] at htaken
            obtain ⟨next, htake, hrest⟩ := htaken
            exact .take hfield (hentry.of_field hfield).2 (by simpa using hfresh)
              (locate_eq_ok.mp htake) (ih hrest)
      | none =>
          have hskip := hentry.value.skipFault?_eq
          rw [bind_eq_ok, hregular.passes draft entry hskip] at htaken
          obtain ⟨_, hpass, hrest⟩ := htaken
          cases hpass
          exact .pass hfield hskip (ih hrest)

theorem takeEntries_of_fills {slot : Slot} {initial : δ}
    (hregular : assembly.IsRegular origin slot initial) {entries : List (Entry Document)}
    {seen : List String} {draft last : δ} (hfills : assembly.Fills origin entries seen draft last) :
    assembly.takeEntries origin entries seen draft = .ok last := by
  induction hfills with
  | nil => rfl
  | take hfield _ hfresh htake _ ih =>
      rw [takeEntries, hfield]
      simp only [ok_bind]
      rw [if_neg (by simpa using hfresh), htake]
      exact ih
  | pass hfield hskip _ ih =>
      rw [takeEntries, hfield]
      simp only [ok_bind]
      rw [hregular.passes _ _ hskip]
      exact ih

theorem Fills.eq_of_seen {entries : List (Entry Document)} {seen : List String} {draft last : δ}
    (hfills : assembly.Fills origin entries seen draft last)
    (hseen : ∀ name ∈ assembly.shape.names, name ∈ seen) : last = draft := by
  induction hfills with
  | nil => rfl
  | take _ hname hfresh => exact absurd (hseen _ hname) hfresh
  | pass _ _ _ ih => exact ih hseen

theorem Fills.of_subset {entries : List (Entry Document)} {seen less : List String}
    {draft last : δ} (hfills : assembly.Fills origin entries seen draft last)
    (hless : less ⊆ seen) : assembly.Fills origin entries less draft last := by
  induction hfills generalizing less with
  | nil => exact .nil
  | take hfield hname hfresh htake _ ih =>
      exact .take hfield hname (fun hmem => hfresh (hless hmem)) htake
        (ih (List.cons_subset_cons _ hless))
  | pass hfield hskip _ ih => exact .pass hfield hskip (ih hless)

theorem Fills.perm {slot : Slot} {initial : δ} (hregular : assembly.IsRegular origin slot initial)
    {entries others : List (Entry Document)} (horder : entries.Perm others) {seen : List String}
    {draft last : δ} (hfills : assembly.Fills origin entries seen draft last) :
    assembly.Fills origin others seen draft last := by
  induction horder generalizing seen draft with
  | nil => exact hfills
  | cons entry _ ih =>
      cases hfills with
      | take hfield hname hfresh htake hrest => exact .take hfield hname hfresh htake (ih hrest)
      | pass hfield hskip hrest => exact .pass hfield hskip (ih hrest)
  | swap second first entries =>
      cases hfills with
      | @take _ _ _ _ _ _ name hfield hname hfresh htake hrest =>
          cases hrest with
          | @take _ _ _ _ _ _ other hotherField hother hotherFresh hotherTake hrest =>
              have hne : name ≠ other := fun heq => hotherFresh (heq ▸ List.mem_cons_self)
              obtain ⟨between, hsecond, hfirst⟩ :=
                hregular.commutes name hname other hother hne _ _ htake hotherTake
              have hnameFresh : name ∉ other :: seen :=
                List.not_mem_cons_of_ne_of_not_mem hne hfresh
              exact .take hotherField hother (List.not_mem_of_not_mem_cons hotherFresh) hsecond
                (.take hfield hname hnameFresh hfirst
                  (hrest.of_subset (List.Perm.swap _ _ _).subset))
          | pass hotherField hskip hrest =>
              exact .pass hotherField hskip (.take hfield hname hfresh htake hrest)
      | pass hfield hskip hrest =>
          cases hrest with
          | take hotherField hother hotherFresh hotherTake hrest =>
              exact .take hotherField hother hotherFresh hotherTake (.pass hfield hskip hrest)
          | pass hotherField hotherSkip hrest =>
              exact .pass hotherField hotherSkip (.pass hfield hskip hrest)
  | trans _ _ ihFirst ihSecond => exact ihSecond (ihFirst hfills)

theorem Fills.leave {slot : Slot} {initial : δ} (hregular : assembly.IsRegular origin slot initial)
    {gone kept : List (Option String × Source)} {entries : List (Entry Document)}
    (hshow : List.Forall₂ (EntryShows origin room) (gone ++ kept) entries)
    (hgone : ∀ member ∈ gone, IsLeft slot member) :
    ∃ rest, List.Forall₂ (EntryShows origin room) kept rest ∧
      ∀ {seen : List String} {last : δ}, assembly.Fills origin entries seen initial last →
        assembly.Fills origin rest seen initial last := by
  induction gone generalizing entries with
  | nil => exact ⟨entries, hshow, fun hfills => hfills⟩
  | cons member gone ih =>
      obtain ⟨hleft, hgone⟩ := List.forall_mem_cons.mp hgone
      cases hshow with
      | @cons _ entry _ entries hentry hshow =>
          obtain ⟨rest, hrest, hfills⟩ := ih hshow hgone
          refine ⟨rest, hrest, fun htaken => hfills ?_⟩
          obtain ⟨name, value⟩ := member
          obtain ⟨key, hkey, hheld⟩ := hleft
          obtain rfl : name = some key := hkey
          cases htaken with
          | @take _ _ _ _ next _ found hfield hname hfresh htake htaken =>
              obtain rfl : key = found := Option.some.inj (hentry.of_field hfield).1
              obtain rfl := hregular.defaults key hname hheld hentry.value htake
              exact htaken.of_subset (List.subset_cons_self _ _)
          | pass _ _ htaken => exact htaken

theorem Fills.add {slot : Slot} {initial : δ} (hregular : assembly.IsRegular origin slot initial)
    {added kept : List (Option String × Source)} {entries : List (Entry Document)}
    (hshow : List.Forall₂ (EntryShows origin room) (added ++ kept) entries)
    (hadded : ∀ member ∈ added, IsAdded slot member) :
    ∃ rest, rest ⊆ entries ∧ List.Forall₂ (EntryShows origin room) kept rest ∧
      ∀ {seen : List String} {draft last : δ}, assembly.Fills origin rest seen draft last →
        assembly.Fills origin entries seen draft last := by
  induction added generalizing entries with
  | nil => exact ⟨entries, List.Subset.refl _, hshow, fun hfills => hfills⟩
  | cons member added ih =>
      obtain ⟨hfirst, hadded⟩ := List.forall_mem_cons.mp hadded
      cases hshow with
      | @cons _ entry _ entries hentry hshow =>
          obtain ⟨rest, hsubset, hrest, hfills⟩ := ih hshow hadded
          refine ⟨rest, List.subset_cons_of_subset _ hsubset, hrest, fun htaken =>
            .pass ?_ hentry.value.skipFault?_eq (hfills htaken)⟩
          obtain ⟨name, value⟩ := member
          obtain ⟨key, hkey, hunknown, -⟩ := hfirst
          obtain rfl : name = some key := hkey
          rw [hentry.fieldOf?_eq, if_neg]
          simpa using fun hknown => hunknown (hregular.declared key hknown)

/-- Where the fields of one record follow those of another, the members of a variation fill its
draft alike. -/
theorem Fills.vary {following : Assembly δ α} (hshape : following.shape = assembly.shape)
    {slot : Slot} {members others : List (Option String × Source)}
    {entries copies : List (Entry Document)}
    (hvary : List.Forall₂ (MemberVaries slot) members others)
    (hshow : List.Forall₂ (EntryShows origin room) members entries)
    (hothers : List.Forall₂ (EntryShows origin room) others copies)
    (hfollows : ∀ copy ∈ copies, ∀ name ∈ assembly.shape.names, ∀ {draft next : δ}
      {document : Document}, Twins origin (slot.member (some name)) document copy.value →
        assembly.take draft name document = .ok next →
        following.take draft name copy.value = .ok next)
    {seen : List String} {draft last : δ}
    (hfills : assembly.Fills origin entries seen draft last) :
    following.Fills origin copies seen draft last := by
  induction hvary generalizing entries copies seen draft with
  | nil =>
      cases hshow
      cases hothers
      cases hfills
      exact .nil
  | @cons member other members others hmember _ ih =>
      cases hshow with
      | @cons _ entry _ entries hentry hshow =>
          cases hothers with
          | @cons _ copy _ copies hcopy hothers =>
              obtain ⟨hcopyFollows, hfollows⟩ := List.forall_mem_cons.mp hfollows
              have hfield : ∀ {found}, assembly.shape.fieldOf? origin entry.key = .ok found →
                  following.shape.fieldOf? origin copy.key = .ok found := by
                intro found hfield
                obtain ⟨name, value⟩ := member
                obtain ⟨key, rfl⟩ := hentry.exists_name hfield
                obtain ⟨otherName, otherValue⟩ := other
                obtain rfl : some key = otherName := hmember.name
                rw [hshape, hcopy.fieldOf?_eq, ← hentry.fieldOf?_eq, hfield]
              cases hfills with
              | @take _ _ _ _ _ _ name hfound hname hfresh htake hrest =>
                  have htwins := hmember.value.twins hentry.value hcopy.value
                  rw [(hentry.of_field hfound).1] at htwins
                  exact .take (hfield hfound) (hshape ▸ hname) hfresh
                    (hcopyFollows name hname htwins htake) (ih hshow hothers hfollows hrest)
              | pass hfound _ hrest =>
                  exact .pass (hfield hfound) hcopy.value.skipFault?_eq
                    (ih hshow hothers hfollows hrest)

theorem IsRegular.takeEntries_follow {following : Assembly δ α} {slot : Slot} {initial : δ}
    (hregular : assembly.IsRegular origin slot initial)
    (hfollowing : following.IsRegular origin slot initial)
    (hshape : following.shape = assembly.shape)
    {members others : List (Option String × Source)} {entries copies : List (Entry Document)}
    (hvary : Rearranges slot members others) (hshow : MembersShow origin room members entries)
    (hothers : MembersShow origin room others copies)
    (hfollows : ∀ copy ∈ copies, ∀ name ∈ assembly.shape.names, ∀ {draft next : δ}
      {document : Document}, Twins origin (slot.member (some name)) document copy.value →
        assembly.take draft name document = .ok next →
        following.take draft name copy.value = .ok next)
    {last : δ} (htaken : assembly.takeEntries origin entries [] initial = .ok last) :
    following.takeEntries origin copies [] initial = .ok last := by
  rw [membersShow_iff] at hshow hothers
  obtain ⟨gone, kept, added, changed, hbefore, hafter, hgone, hadded, hkept⟩ := hvary.parts
  obtain ⟨ordered, horderedShow, hordered⟩ := List.perm_comp_forall₂ hbefore.symm hshow
  obtain ⟨arranged, harrangedShow, harranged⟩ := List.perm_comp_forall₂ hafter.symm hothers
  obtain ⟨rest, hrestShow, hleave⟩ := Fills.leave hregular horderedShow hgone
  obtain ⟨more, hmore, hmoreShow, hadd⟩ := Fills.add hfollowing harrangedShow hadded
  have hfills := (fills_of_takeEntries hregular hshow htaken).perm hregular hordered.symm
  have hvaried := (hleave hfills).vary hshape hkept hrestShow hmoreShow
    fun copy hmem => hfollows copy (harranged.mem_iff.mp (hmore hmem))
  exact takeEntries_of_fills hfollowing ((hadd hvaried).perm hfollowing harranged)

theorem IsRegular.takeEntries_eq {slot : Slot} {initial : δ}
    (hregular : assembly.IsRegular origin slot initial) (hsteady : assembly.IsSteady origin slot)
    {members others : List (Option String × Source)} {entries copies : List (Entry Document)}
    (hvary : Rearranges slot members others) (hshow : MembersShow origin room members entries)
    (hothers : MembersShow origin room others copies) {last : δ}
    (htaken : assembly.takeEntries origin entries [] initial = .ok last) :
    assembly.takeEntries origin copies [] initial = .ok last :=
  hregular.takeEntries_follow hregular rfl hvary hshow hothers
    (fun _ _ name hname draft _ _ htwins htake => hsteady name hname draft htwins htake) htaken

/-- In a text only the last item has no surplus behind it. -/
theorem surplus_eq_none_iff {items : List Source} {parts : List (Item Document)}
    (hitems : ItemsShow .text room items parts) {index : Nat} {part : Item Document}
    (hpart : parts[index]? = some part) : part.surplus = none ↔ index + 1 = parts.length := by
  induction parts generalizing items index with
  | nil => cases hpart
  | cons first parts ih =>
      cases hitems with
      | cons _ hsurplus hitems =>
          cases index with
          | zero =>
              obtain rfl : first = part := by simpa using hpart
              rw [hsurplus rfl, ← List.length_eq_zero_iff, List.length_cons]
              omega
          | succ index =>
              rw [ih hitems (by simpa using hpart), List.length_cons]
              omega

theorem checkSurplus_eq_ok {shape : Shape} (horigin : origin = .text ∨ origin = .copy)
    {items others : List Source} {parts copies surplus rest : List (Item Document)}
    (hitems : ItemsShow origin room items parts) (hothers : ItemsShow origin room others copies)
    (hlength : parts.length = copies.length) (hrest : surplus.length = rest.length)
    (hread : checkSurplus shape origin parts surplus = .ok ()) :
    checkSurplus shape origin copies rest = .ok () := by
  rcases horigin with rfl | rfl
  · simp only [checkSurplus] at hread ⊢
    split
    next fault hcopy =>
      obtain ⟨part, hpart⟩ : ∃ part, parts[shape.fields.length - 1]? = some part := by
        obtain ⟨hlt, -⟩ := List.getElem?_eq_some_iff.mp hcopy
        exact ⟨_, List.getElem?_eq_getElem (hlength ▸ hlt)⟩
      have hlast : part.surplus = none := by
        obtain ⟨value, location, surplus⟩ := part
        rw [hpart] at hread
        cases surplus with
        | none => rfl
        | some => cases hread
      rw [surplus_eq_none_iff hitems hpart, hlength, ← surplus_eq_none_iff hothers hcopy] at hlast
      cases hlast
    next => rfl
  · have hempty : surplus.isEmpty = rest.isEmpty := by
      cases surplus <;> cases rest <;> simp_all
    simp only [checkSurplus] at hread ⊢
    rw [← hempty, ← hlength]
    exact hread

theorem IsSteady.takeItems_eq {slot : Slot} (hsteady : assembly.IsSteady origin slot)
    {fields : List Field} {index : Nat}
    (hfields : ∀ place field, fields[place]? = some field → field.name ∈ assembly.shape.names ∧
      slot.item (index + place) = slot.member (some field.name))
    {items others : List Source} {parts copies surplus : List (Item Document)}
    {location behind : Option Location} {position : Nat} {draft last : δ}
    (hvary : ItemsVary slot index items others) (hitems : ItemsShow origin room items parts)
    (hothers : ItemsShow origin room others copies)
    (htaken : assembly.takeItems (.closed location) fields parts position draft =
      .ok (last, surplus)) :
    ∃ rest, assembly.takeItems (.closed behind) fields copies position draft = .ok (last, rest) ∧
      surplus.length = rest.length := by
  induction fields generalizing index items others parts copies position draft with
  | nil =>
      rw [takeItems] at htaken
      cases htaken
      refine ⟨copies, by rw [takeItems], ?_⟩
      rw [← hitems.length_eq, ← hothers.length_eq, hvary.length_eq]
  | cons field fields ih =>
      obtain ⟨hname, hslot⟩ := hfields 0 field rfl
      have hlater : ∀ place later, fields[place]? = some later →
          later.name ∈ assembly.shape.names ∧
            slot.item (index + 1 + place) = slot.member (some later.name) := by
        intro place later hplace
        have hlater := hfields (place + 1) later hplace
        rwa [← Nat.add_assoc, Nat.add_right_comm] at hlater
      cases hitems with
      | nil =>
          cases hvary
          cases hothers
          rw [takeItems, bind_eq_ok] at htaken
          obtain ⟨_, -, htaken⟩ := htaken
          split at htaken
          next => cases htaken
          next hrequired =>
            obtain ⟨rest, hrest, hlength⟩ := ih hlater .nil .nil .nil htaken
            refine ⟨rest, ?_, hlength⟩
            rw [takeItems]
            simp only [Ending.check, ok_bind]
            rw [if_neg hrequired, hrest]
      | cons hitem _ hitems =>
          cases hvary with
          | cons hfirst hvary =>
              cases hothers with
              | cons hother _ hothers =>
                  rw [takeItems, bind_eq_ok] at htaken
                  obtain ⟨next, htake, htaken⟩ := htaken
                  rw [Nat.add_zero] at hslot
                  rw [hslot] at hfirst
                  have hcopy := hsteady field.name hname draft
                    (hfirst.twins hitem hother) (locate_eq_ok.mp htake)
                  obtain ⟨rest, hrest, hlength⟩ := ih hlater hvary hitems hothers htaken
                  refine ⟨rest, ?_, hlength⟩
                  rw [takeItems, hcopy]
                  exact hrest

theorem IsSteady.read_sequence_eq {slot : Slot} {initial : δ}
    (hsteady : assembly.IsSteady origin slot)
    (horigin : origin = .text ∨ origin = .copy) {index : Nat}
    (hfields : ∀ place field, assembly.shape.fields[place]? = some field →
      slot.item (index + place) = slot.member (some field.name))
    {items others : List Source} {parts copies : List (Item Document)}
    {location behind start begin : Option Location} {result : α}
    (hvary : ItemsVary slot index items others) (hitems : ItemsShow origin room items parts)
    (hothers : ItemsShow origin room others copies)
    (hread : assembly.read origin initial (.sequence none parts (.closed location) start) =
      .ok result) :
    assembly.read origin initial (.sequence none copies (.closed behind) begin) = .ok result := by
  simp only [Assembly.read, resolved] at hread ⊢
  split at hread
  next => cases hread
  next hclosed =>
    rw [if_neg hclosed]
    rw [bind_eq_ok] at hread ⊢
    obtain ⟨⟨last, surplus⟩, htaken, hread⟩ := hread
    rw [bind_eq_ok] at hread
    obtain ⟨_, hsurplus, hcomplete⟩ := hread
    obtain ⟨rest, hrest, hlength⟩ := hsteady.takeItems_eq
      (fun place field hplace => ⟨List.mem_map_of_mem (List.mem_of_getElem? hplace),
        hfields place field hplace⟩) hvary hitems hothers htaken
    have hparts : parts.length = copies.length := by
      rw [← hitems.length_eq, ← hothers.length_eq, hvary.length_eq]
    refine ⟨(last, rest), hrest, ?_⟩
    simp only [checkSurplus_eq_ok horigin hitems hothers hparts hlength hsurplus, ok_bind]
    exact hcomplete

theorem IsRegular.read_mapping_eq {slot : Slot} {initial : δ}
    (hregular : assembly.IsRegular origin slot initial) (hsteady : assembly.IsSteady origin slot)
    {members others : List (Option String × Source)} {entries copies : List (Entry Document)}
    {location behind start begin : Option Location} {result : α}
    (hvary : Rearranges slot members others) (hmembers : MembersShow origin room members entries)
    (hothers : MembersShow origin room others copies)
    (hread : assembly.read origin initial (.mapping none entries (.closed location) start) =
      .ok result) :
    assembly.read origin initial (.mapping none copies (.closed behind) begin) = .ok result := by
  simp only [Assembly.read, resolved, Ending.check, bind_eq_ok, ok_bind, locate_eq_ok] at hread ⊢
  obtain ⟨last, htaken, hcomplete⟩ := hread
  exact ⟨last, hregular.takeEntries_eq hsteady hvary hmembers hothers htaken, hcomplete⟩

theorem IsRegular.steady_read {slot : Slot} {initial : δ}
    (hregular : assembly.IsRegular origin slot initial) (hsteady : assembly.IsSteady origin slot)
    (horigin : origin = .text ∨ origin = .copy) (hslot : slot ≠ .choice)
    (hfields : ∀ place field, assembly.shape.fields[place]? = some field →
      slot.item place = slot.member (some field.name)) :
    Steady origin slot (assembly.read origin initial) := by
  intro document other result htwins hread
  cases htwins with
  | scalar => cases hread
  | sequence hitems hothers hvaries =>
      exact @IsSteady.read_sequence_eq _ _ _ _ _ _ _ hsteady horigin 0
        (fun place field hplace => by rw [Nat.zero_add]; exact hfields place field hplace)
        _ _ _ _ _ _ _ _ _ (hvaries.itemsVary hslot) hitems hothers hread
  | mapping hmembers hothers hvaries =>
      exact hregular.read_mapping_eq hsteady (hvaries.rearranges hslot) hmembers hothers hread
  | unusable => cases hread

end Assembly

end ProviderForge.Document

import Mathlib.Data.List.Perm.Basic
import ProviderForge.Proofs.Document.Holds
import ProviderForge.Proofs.Json.Source
import ProviderForge.Proofs.Result

/-!
What a document shows of the text that it was read from: everything but the blanks and the
spelling, as long as no more brackets are open than the reader follows. A copy shows the same as
the document, if nothing of it is lost.
-/

namespace ProviderForge

namespace Json.Source

mutual
def depth (room : Nat) : Source → Nat
  | scalar _ => 0
  | array items =>
      match room with
      | 0 => 0
      | room + 1 => itemsDepth room items + 1
  | object members =>
      match room with
      | 0 => 0
      | room + 1 => membersDepth room members + 1

def itemsDepth (room : Nat) : List Source → Nat
  | [] => 0
  | item :: items => max (item.depth room) (itemsDepth room items)

def membersDepth (room : Nat) : List (Option String × Source) → Nat
  | [] => 0
  | (_, value) :: members => max (value.depth room) (membersDepth room members)
end

theorem depth_le_of_mem_items {room : Nat} {item : Source} {items : List Source}
    (hmem : item ∈ items) : item.depth room ≤ itemsDepth room items := by
  induction items with
  | nil => simp at hmem
  | cons first items ih =>
      rw [itemsDepth]
      rcases List.mem_cons.mp hmem with rfl | hmem
      · exact Nat.le_max_left _ _
      · exact Nat.le_trans (ih hmem) (Nat.le_max_right _ _)

theorem depth_le_of_mem_members {room : Nat} {name : Option String} {value : Source}
    {members : List (Option String × Source)} (hmem : (name, value) ∈ members) :
    value.depth room ≤ membersDepth room members := by
  induction members with
  | nil => simp at hmem
  | cons first members ih =>
      rw [membersDepth]
      rcases List.mem_cons.mp hmem with rfl | hmem
      · exact Nat.le_max_left _ _
      · exact Nat.le_trans (ih hmem) (Nat.le_max_right _ _)

/-- A value that has no use but can be skipped. -/
inductive IsLost : Nat → Source → Prop
  | scalar {room : Nat} : IsLost room (.scalar none)
  | array {items : List Source} : IsLost 0 (.array items)
  | object {members : List (Option String × Source)} : IsLost 0 (.object members)

inductive IsUsable : Nat → Source → Prop
  | scalar {room : Nat} {atom : Atom} : IsUsable room (.scalar (some atom))
  | array {room : Nat} {items : List Source} (hitems : ∀ item ∈ items, IsUsable room item) :
      IsUsable (room + 1) (.array items)
  | object {room : Nat} {members : List (Option String × Source)}
      (hnames : ∀ member ∈ members, ∃ name, member.1 = some name)
      (hvalues : ∀ member ∈ members, IsUsable room member.2) :
      IsUsable (room + 1) (.object members)

end Json.Source

open Json (Source)
open Json.Source (IsLost IsUsable)

namespace Document

mutual
/-- `room` tells how many brackets may be open. -/
inductive Shows (origin : Origin) : Nat → Source → Document → Prop
  | scalar {room : Nat} {atom : Atom} {start after : Option Location} :
      Shows origin room (.scalar (some atom)) (.scalar (.ofAtom atom) start after)
  | array {room : Nat} {items : List Source} {parts : List (Item Document)}
      {location start : Option Location} (hitems : ItemsShow origin room items parts) :
      Shows origin (room + 1) (.array items) (.sequence none parts (.closed location) start)
  | object {room : Nat} {members : List (Option String × Source)}
      {entries : List (Entry Document)} {location start : Option Location}
      (hmembers : MembersShow origin room members entries) :
      Shows origin (room + 1) (.object members) (.mapping none entries (.closed location) start)
  | lost {room : Nat} {source : Source} {breakage : Breakage} (horigin : origin = .text)
      (hlost : IsLost room source) (hskipping : breakage.skipping = none)
      (habsence : breakage.absence = none) : Shows origin room source (.unusable breakage)

/-- In a text those who want no further item see whether one follows. -/
inductive ItemsShow (origin : Origin) : Nat → List Source → List (Item Document) → Prop
  | nil {room : Nat} : ItemsShow origin room [] []
  | cons {room : Nat} {item : Source} {part : Item Document} {items : List Source}
      {parts : List (Item Document)} (hitem : Shows origin room item part.value)
      (hsurplus : origin = .text → (part.surplus = none ↔ parts = []))
      (hitems : ItemsShow origin room items parts) :
      ItemsShow origin room (item :: items) (part :: parts)

inductive MembersShow (origin : Origin) :
    Nat → List (Option String × Source) → List (Entry Document) → Prop
  | nil {room : Nat} : MembersShow origin room [] []
  | cons {room : Nat} {name : Option String} {value : Source} {entry : Entry Document}
      {members : List (Option String × Source)} {entries : List (Entry Document)}
      (hkey : Shows origin room (.scalar (name.map .string)) entry.key)
      (hvalue : Shows origin room value entry.value)
      (hmembers : MembersShow origin room members entries) :
      MembersShow origin room ((name, value) :: members) (entry :: entries)
end

theorem Shows.of_atom {origin : Origin} {room : Nat} {atom : Atom} {document : Document}
    (hshows : Shows origin room (.scalar (some atom)) document) :
    ∃ start after, document = .scalar (.ofAtom atom) start after := by
  cases hshows with
  | scalar => exact ⟨_, _, rfl⟩
  | lost _ hlost => cases hlost

theorem ItemsShow.length_eq {origin : Origin} {room : Nat} {items : List Source}
    {parts : List (Item Document)}
    (hshow : ItemsShow origin room items parts) : items.length = parts.length := by
  induction parts generalizing items with
  | nil => cases hshow; rfl
  | cons part parts ih =>
      cases hshow with
      | cons _ _ hitems => simp [ih hitems]

structure EntryShows (origin : Origin) (room : Nat) (member : Option String × Source)
    (entry : Entry Document) : Prop where
  key : Shows origin room (.scalar (member.1.map .string)) entry.key
  value : Shows origin room member.2 entry.value

theorem membersShow_iff {origin : Origin} {room : Nat} {members : List (Option String × Source)}
    {entries : List (Entry Document)} :
    MembersShow origin room members entries ↔
      List.Forall₂ (EntryShows origin room) members entries := by
  constructor
  · intro hshow
    induction entries generalizing members with
    | nil =>
        cases hshow
        exact .nil
    | cons entry entries ih =>
        cases hshow with
        | cons hkey hvalue hmembers => exact .cons ⟨hkey, hvalue⟩ (ih hmembers)
  · intro hall
    induction hall with
    | nil => exact .nil
    | cons hentry _ ih => exact .cons hentry.key hentry.value ih

theorem MembersShow.exists_member {origin : Origin} {room : Nat}
    {members : List (Option String × Source)} {entries : List (Entry Document)}
    (hshow : MembersShow origin room members entries) {entry : Entry Document}
    (hmem : entry ∈ entries) : ∃ member ∈ members, EntryShows origin room member entry := by
  rw [membersShow_iff] at hshow
  induction hshow with
  | nil => cases hmem
  | cons hentry _ ih =>
      rcases List.mem_cons.mp hmem with rfl | hmem
      · exact ⟨_, List.mem_cons_self, hentry⟩
      · obtain ⟨member, hmember, hshows⟩ := ih hmem
        exact ⟨member, List.mem_cons_of_mem _ hmember, hshows⟩

/-! Whatever is shown can be skipped. -/

mutual
theorem Shows.skipFault?_eq {origin : Origin} {room : Nat} {source : Source} {document : Document}
    (hshows : Shows origin room source document) : document.skipFault? = none := by
  cases hshows with
  | scalar => rfl
  | array hitems => rw [skipFault?, hitems.skipFault?_eq]; rfl
  | object hmembers => rw [skipFault?, hmembers.skipFault?_eq]; rfl
  | lost _ _ hskipping => exact hskipping

theorem ItemsShow.skipFault?_eq {origin : Origin} {room : Nat} {items : List Source}
    {parts : List (Item Document)}
    (hshow : ItemsShow origin room items parts) : itemsSkipFault? parts = none := by
  cases hshow with
  | nil => rfl
  | cons hitem _ hitems => rw [itemsSkipFault?, hitem.skipFault?_eq, hitems.skipFault?_eq]; rfl

theorem MembersShow.skipFault?_eq {origin : Origin} {room : Nat}
    {members : List (Option String × Source)}
    {entries : List (Entry Document)} (hshow : MembersShow origin room members entries) :
    entriesSkipFault? entries = none := by
  cases hshow with
  | nil => rfl
  | cons hkey hvalue hmembers =>
      rw [entriesSkipFault?, hkey.skipFault?_eq, hvalue.skipFault?_eq, hmembers.skipFault?_eq]
      rfl
end

theorem Shows.scalar_depth {origin : Origin} {room : Nat} {value : Option Atom}
    {document : Document}
    (hshows : Shows origin room (.scalar value) document) : document.depth = 0 := by
  cases hshows <;> rfl

mutual
theorem Shows.depth_eq {origin : Origin} {room : Nat} {source : Source} {document : Document}
    (hshows : Shows origin room source document) : document.depth = source.depth room := by
  cases hshows with
  | scalar => rfl
  | array hitems => rw [Document.depth, Source.depth, hitems.depth_eq]
  | object hmembers => rw [Document.depth, Source.depth, hmembers.depth_eq]
  | lost _ hlost => cases hlost <;> rfl

theorem ItemsShow.depth_eq {origin : Origin} {room : Nat} {items : List Source}
    {parts : List (Item Document)}
    (hshow : ItemsShow origin room items parts) :
    itemsDepth parts = Source.itemsDepth room items := by
  cases hshow with
  | nil => rfl
  | cons hitem _ hitems =>
      rw [itemsDepth, Source.itemsDepth, hitem.depth_eq, hitems.depth_eq]

theorem MembersShow.depth_eq {origin : Origin} {room : Nat}
    {members : List (Option String × Source)}
    {entries : List (Entry Document)} (hshow : MembersShow origin room members entries) :
    entriesDepth entries = Source.membersDepth room members := by
  cases hshow with
  | nil => rfl
  | cons hkey hvalue hmembers =>
      rw [entriesDepth, Source.membersDepth, hkey.scalar_depth, hvalue.depth_eq,
        hmembers.depth_eq, Nat.zero_max]
end

theorem depth_le_of_mem {part : Item Document} {parts : List (Item Document)}
    (hmem : part ∈ parts) : part.value.depth ≤ itemsDepth parts := by
  induction parts with
  | nil => simp at hmem
  | cons first parts ih =>
      rw [itemsDepth]
      rcases List.mem_cons.mp hmem with rfl | hmem
      · exact Nat.le_max_left _ _
      · exact Nat.le_trans (ih hmem) (Nat.le_max_right _ _)

theorem Copying.exists_of_bind_ok {α β : Type} {first : Copying α} {next : α → Copying β}
    {count : Nat} {result : β × Nat} (hok : (first >>= next) count = .ok result) :
    ∃ value later, first count = .ok (value, later) ∧ next value later = .ok result := by
  change Except.bind (first count) (fun step => next step.1 step.2) = _ at hok
  cases hfirst : first count with
  | error fault =>
      rw [hfirst] at hok
      cases hok
  | ok step => exact ⟨step.1, step.2, rfl, by rw [hfirst] at hok; exact hok⟩

theorem Copying.ok_of_located {α : Type} {location : Option Location} {copying : Copying α}
    {count : Nat} {result : α × Nat} (hok : Copying.located location copying count = .ok result) :
    copying count = .ok result := by
  rw [Copying.located] at hok
  cases hcopying : copying count with
  | error fault =>
      rw [hcopying] at hok
      cases hok
  | ok value =>
      rw [hcopying] at hok
      exact hok

mutual
theorem Shows.copy {origin : Origin} {room : Nat} {source : Source} {document : Document}
    (hshows : Shows origin room source document) (husable : IsUsable room source) (count : Nat) :
    ∃ copied, document.copy count = .ok (copied, count) ∧ Shows .copy room source copied := by
  cases hshows with
  | scalar => exact ⟨_, rfl, .scalar⟩
  | array hitems =>
      cases husable with
      | array husable =>
          obtain ⟨copied, hcopy, hcopied⟩ := hitems.copy husable count
          exact ⟨_, copy_sequence hcopy, .array hcopied⟩
  | object hmembers =>
      cases husable with
      | object hnames hvalues =>
          obtain ⟨copied, hcopy, hcopied⟩ := hmembers.copy hnames hvalues count
          exact ⟨_, copy_mapping hcopy, .object hcopied⟩
  | lost _ hlost => cases hlost <;> cases husable

theorem ItemsShow.copy {origin : Origin} {room : Nat} {items : List Source}
    {parts : List (Item Document)}
    (hshow : ItemsShow origin room items parts) (husable : ∀ item ∈ items, IsUsable room item)
    (count : Nat) :
    ∃ copied, copyItems parts count = .ok (copied, count) ∧
      ItemsShow .copy room items copied := by
  cases hshow with
  | nil => exact ⟨[], rfl, .nil⟩
  | cons hitem _ hitems =>
      obtain ⟨husableItem, husable⟩ := List.forall_mem_cons.mp husable
      obtain ⟨first, hfirst, hfirstShows⟩ := hitem.copy husableItem count
      obtain ⟨rest, hrest, hrestShow⟩ := hitems.copy husable count
      refine ⟨⟨first, none, none⟩ :: rest, ?_, .cons hfirstShows nofun hrestShow⟩
      rw [copyItems, Copying.bind_ok hfirst, Copying.bind_ok hrest]
      rfl

theorem MembersShow.copy {origin : Origin} {room : Nat} {members : List (Option String × Source)}
    {entries : List (Entry Document)}
    (hshow : MembersShow origin room members entries)
    (hnames : ∀ member ∈ members, ∃ name, member.1 = some name)
    (hvalues : ∀ member ∈ members, IsUsable room member.2) (count : Nat) :
    ∃ copied, copyEntries entries count = .ok (copied, count) ∧
      MembersShow .copy room members copied := by
  cases hshow with
  | nil => exact ⟨[], rfl, .nil⟩
  | cons hkey hvalue hmembers =>
      obtain ⟨⟨name, rfl⟩, hrestNames⟩ := List.forall_mem_cons.mp hnames
      obtain ⟨husableValue, hrestValues⟩ := List.forall_mem_cons.mp hvalues
      obtain ⟨key, hkeyCopy, hkeyShows⟩ := hkey.copy .scalar count
      obtain ⟨value, hvalueCopy, hvalueShows⟩ := hvalue.copy husableValue count
      obtain ⟨rest, hrest, hrestShow⟩ := hmembers.copy hrestNames hrestValues count
      refine ⟨⟨key, value, none, none⟩ :: rest, ?_, .cons hkeyShows hvalueShows hrestShow⟩
      rw [copyEntries, Copying.bind_ok hkeyCopy, Copying.bind_ok hvalueCopy, Copying.bind_ok hrest]
      rfl
end

mutual
theorem Shows.isUsable_of_copy {origin : Origin} {room : Nat} {source : Source}
    {document : Document}
    (hshows : Shows origin room source document) {count : Nat} {result : Document × Nat}
    (hcopy : document.copy count = .ok result) : IsUsable room source := by
  cases hshows with
  | scalar => exact .scalar
  | array hitems =>
      rw [Document.copy] at hcopy
      obtain ⟨_, _, -, hparts⟩ := Copying.exists_of_bind_ok (Copying.ok_of_located hcopy)
      obtain ⟨_, _, hcopied, -⟩ := Copying.exists_of_bind_ok hparts
      exact .array (hitems.usable_of_copy hcopied)
  | object hmembers =>
      rw [Document.copy] at hcopy
      obtain ⟨_, _, -, hparts⟩ := Copying.exists_of_bind_ok (Copying.ok_of_located hcopy)
      obtain ⟨_, _, hcopied, -⟩ := Copying.exists_of_bind_ok hparts
      obtain ⟨hnames, hvalues⟩ := hmembers.usable_of_copy hcopied
      exact .object hnames hvalues
  | lost => cases hcopy

theorem ItemsShow.usable_of_copy {origin : Origin} {room : Nat} {items : List Source}
    {parts : List (Item Document)}
    (hshow : ItemsShow origin room items parts) {count : Nat}
    {result : List (Item Document) × Nat} (hcopy : copyItems parts count = .ok result) :
    ∀ item ∈ items, IsUsable room item := by
  cases hshow with
  | nil => exact List.forall_mem_nil _
  | cons hitem _ hitems =>
      rw [copyItems] at hcopy
      obtain ⟨_, _, hfirst, hothers⟩ := Copying.exists_of_bind_ok hcopy
      obtain ⟨_, _, hrest, -⟩ := Copying.exists_of_bind_ok hothers
      exact List.forall_mem_cons.mpr
        ⟨hitem.isUsable_of_copy hfirst, hitems.usable_of_copy hrest⟩

theorem MembersShow.usable_of_copy {origin : Origin} {room : Nat}
    {members : List (Option String × Source)}
    {entries : List (Entry Document)} (hshow : MembersShow origin room members entries)
    {count : Nat} {result : List (Entry Document) × Nat}
    (hcopy : copyEntries entries count = .ok result) :
    (∀ member ∈ members, ∃ name, member.1 = some name) ∧
      ∀ member ∈ members, IsUsable room member.2 := by
  cases hshow with
  | nil => exact ⟨List.forall_mem_nil _, List.forall_mem_nil _⟩
  | @cons _ name _ _ _ _ hkey hvalue hmembers =>
      rw [copyEntries] at hcopy
      obtain ⟨_, _, hname, hafterKey⟩ := Copying.exists_of_bind_ok hcopy
      obtain ⟨_, _, hfirst, hothers⟩ := Copying.exists_of_bind_ok hafterKey
      obtain ⟨_, _, hrest, -⟩ := Copying.exists_of_bind_ok hothers
      obtain ⟨hnames, hvalues⟩ := hmembers.usable_of_copy hrest
      refine ⟨List.forall_mem_cons.mpr ⟨?_, hnames⟩,
        List.forall_mem_cons.mpr ⟨hvalue.isUsable_of_copy hfirst, hvalues⟩⟩
      cases name with
      | some name => exact ⟨name, rfl⟩
      | none => cases hkey.isUsable_of_copy hname
end

theorem Shows.copied {origin : Origin} {room : Nat} {source : Source} {document : Document}
    (hshows : Shows origin room source document) (husable : IsUsable room source) :
    ∃ copied, document.copied = .ok copied ∧ Shows .copy room source copied := by
  obtain ⟨copied, hcopy, hcopied⟩ := hshows.copy husable 0
  refine ⟨copied, ?_, hcopied⟩
  change Prod.fst <$> document.copy 0 = _
  rw [hcopy]
  rfl

theorem Shows.of_copied {origin : Origin} {room : Nat} {source : Source}
    {document copied : Document}
    (hshows : Shows origin room source document) (hcopied : document.copied = .ok copied) :
    IsUsable room source ∧ Shows .copy room source copied := by
  change Prod.fst <$> document.copy 0 = _ at hcopied
  obtain ⟨result, hcopy, -⟩ := Result.map_eq_ok.mp hcopied
  have husable := hshows.isUsable_of_copy hcopy
  obtain ⟨other, hother, hotherShows⟩ := hshows.copy husable 0
  rw [hother] at hcopied
  cases hcopied
  exact ⟨husable, hotherShows⟩

theorem ItemsShow.copiedItems {origin : Origin} {room : Nat} {items : List Source}
    {parts : List (Item Document)} (hshow : ItemsShow origin room items parts)
    (husable : ∀ item ∈ items, IsUsable room item) :
    ∃ copied, Document.copiedItems parts = .ok copied ∧ ItemsShow .copy room items copied := by
  obtain ⟨copied, hcopy, hcopied⟩ := hshow.copy husable 0
  refine ⟨copied, ?_, hcopied⟩
  change Prod.fst <$> copyItems parts 0 = _
  rw [hcopy]
  rfl

theorem ItemsShow.of_copiedItems {origin : Origin} {room : Nat} {items : List Source}
    {parts copied : List (Item Document)} (hshow : ItemsShow origin room items parts)
    (hcopied : Document.copiedItems parts = .ok copied) :
    (∀ item ∈ items, IsUsable room item) ∧ ItemsShow .copy room items copied := by
  change Prod.fst <$> copyItems parts 0 = _ at hcopied
  obtain ⟨result, hcopy, -⟩ := Result.map_eq_ok.mp hcopied
  have husable := hshow.usable_of_copy hcopy
  obtain ⟨other, hother, hotherShows⟩ := hshow.copy husable 0
  rw [hother] at hcopied
  cases hcopied
  exact ⟨husable, hotherShows⟩

end Document

end ProviderForge

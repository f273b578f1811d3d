import ProviderForge.Document.Basic
import ProviderForge.Json.Basic

namespace ProviderForge

namespace Json

mutual
def depth : Json → Nat
  | array items => itemsDepth items + 1
  | object members => membersDepth members + 1
  | null | bool _ | integer _ | string _ => 0

def itemsDepth : List Json → Nat
  | [] => 0
  | item :: items => max item.depth (itemsDepth items)

def membersDepth : List (String × Json) → Nat
  | [] => 0
  | (_, value) :: members => max value.depth (membersDepth members)
end

theorem depth_le_of_mem_items {item : Json} {items : List Json} (hmem : item ∈ items) :
    item.depth ≤ itemsDepth items := by
  induction items with
  | nil => simp at hmem
  | cons first items ih =>
      rw [itemsDepth]
      rcases List.mem_cons.mp hmem with rfl | hmem
      · exact Nat.le_max_left _ _
      · exact Nat.le_trans (ih hmem) (Nat.le_max_right _ _)

theorem depth_le_of_mem_members {key : String} {json : Json} {members : List (String × Json)}
    (hmem : (key, json) ∈ members) : json.depth ≤ membersDepth members := by
  induction members with
  | nil => simp at hmem
  | cons first members ih =>
      rw [membersDepth]
      rcases List.mem_cons.mp hmem with rfl | hmem
      · exact Nat.le_max_left _ _
      · exact Nat.le_trans (ih hmem) (Nat.le_max_right _ _)

end Json

namespace Document

mutual
inductive Holds : Document → Json → Prop
  | null {start after : Option Location} :
      Holds (.scalar (.ofAtom (.absent "null")) start after) .null
  | bool {value : Bool} {start after : Option Location} :
      Holds (.scalar (.ofAtom (.flag value)) start after) (.bool value)
  | integer {value : Int} {start after : Option Location} :
      Holds (.scalar (.ofAtom (.integer value)) start after) (.integer value)
  | string {value : String} {start after : Option Location} :
      Holds (.scalar (.ofAtom (.string value)) start after) (.string value)
  | array {items : List (Item Document)} {values : List Json} {location start : Option Location}
      (hitems : ItemsHold items values) :
      Holds (.sequence none items (.closed location) start) (.array values)
  | object {entries : List (Entry Document)} {members : List (String × Json)}
      {location start : Option Location} (hentries : EntriesHold entries members) :
      Holds (.mapping none entries (.closed location) start) (.object members)

inductive ItemsHold : List (Item Document) → List Json → Prop
  | nil : ItemsHold [] []
  | cons {item : Item Document} {value : Json} {items : List (Item Document)}
      {values : List Json} (hitem : Holds item.value value) (hitems : ItemsHold items values) :
      ItemsHold (item :: items) (value :: values)

inductive EntriesHold : List (Entry Document) → List (String × Json) → Prop
  | nil : EntriesHold [] []
  | cons {entry : Entry Document} {key : String} {value : Json}
      {entries : List (Entry Document)} {members : List (String × Json)}
      (hkey : Holds entry.key (.string key)) (hvalue : Holds entry.value value)
      (hentries : EntriesHold entries members) :
      EntriesHold (entry :: entries) ((key, value) :: members)
end

theorem EntriesHold.append_inv {entries : List (Entry Document)}
    {members others : List (String × Json)} (hholds : EntriesHold entries (members ++ others)) :
    ∃ first rest, entries = first ++ rest ∧ EntriesHold first members ∧
      EntriesHold rest others := by
  induction members generalizing entries with
  | nil => exact ⟨[], entries, rfl, .nil, hholds⟩
  | cons member members ih =>
      cases hholds with
      | cons hkey hvalue hentries =>
          obtain ⟨first, rest, rfl, hfirst, hrest⟩ := ih hentries
          exact ⟨_ :: first, rest, rfl, .cons hkey hvalue hfirst, hrest⟩

theorem Copying.bind_ok {first : Copying α} {next : α → Copying β} {count later : Nat} {value : α}
    (hfirst : first count = .ok (value, later)) : (first >>= next) count = next value later := by
  change Except.bind (first count) (fun step => next step.1 step.2) = _
  rw [hfirst]
  rfl

theorem copy_sequence {items copied : List (Item Document)} {location start : Option Location}
    {count : Nat} (hcopied : copyItems items count = .ok (copied, count)) :
    copy (.sequence none items (.closed location) start) count =
      .ok (.sequence none copied (.closed none) none, count) := by
  rw [copy, Copying.located, Copying.bind_ok rfl, Copying.bind_ok hcopied]
  rfl

theorem copy_mapping {entries copied : List (Entry Document)} {location start : Option Location}
    {count : Nat} (hcopied : copyEntries entries count = .ok (copied, count)) :
    copy (.mapping none entries (.closed location) start) count =
      .ok (.mapping none copied (.closed none) none, count) := by
  rw [copy, Copying.located, Copying.bind_ok rfl, Copying.bind_ok hcopied]
  rfl

mutual
theorem Holds.copy {document : Document} {json : Json} (hholds : Holds document json)
    (count : Nat) : ∃ copied, document.copy count = .ok (copied, count) ∧ Holds copied json := by
  cases hholds with
  | null => exact ⟨_, rfl, .null⟩
  | bool => exact ⟨_, rfl, .bool⟩
  | integer => exact ⟨_, rfl, .integer⟩
  | string => exact ⟨_, rfl, .string⟩
  | array hitems =>
      obtain ⟨copied, hcopy, hcopied⟩ := hitems.copy count
      exact ⟨_, copy_sequence hcopy, .array hcopied⟩
  | object hentries =>
      obtain ⟨copied, hcopy, hcopied⟩ := hentries.copy count
      exact ⟨_, copy_mapping hcopy, .object hcopied⟩

theorem ItemsHold.copy {items : List (Item Document)} {values : List Json}
    (hholds : ItemsHold items values) (count : Nat) :
    ∃ copied, copyItems items count = .ok (copied, count) ∧ ItemsHold copied values := by
  cases hholds with
  | nil => exact ⟨[], rfl, .nil⟩
  | cons hitem hitems =>
      obtain ⟨first, hfirst, hfirstHolds⟩ := hitem.copy count
      obtain ⟨rest, hrest, hrestHolds⟩ := hitems.copy count
      refine ⟨⟨first, none, none⟩ :: rest, ?_, .cons hfirstHolds hrestHolds⟩
      rw [copyItems, Copying.bind_ok hfirst, Copying.bind_ok hrest]
      rfl

theorem EntriesHold.copy {entries : List (Entry Document)} {members : List (String × Json)}
    (hholds : EntriesHold entries members) (count : Nat) :
    ∃ copied, copyEntries entries count = .ok (copied, count) ∧ EntriesHold copied members := by
  cases hholds with
  | nil => exact ⟨[], rfl, .nil⟩
  | cons hkey hvalue hentries =>
      obtain ⟨key, hkeyCopy, hkeyHolds⟩ := hkey.copy count
      obtain ⟨value, hvalueCopy, hvalueHolds⟩ := hvalue.copy count
      obtain ⟨rest, hrest, hrestHolds⟩ := hentries.copy count
      refine ⟨⟨key, value, none, none⟩ :: rest, ?_, .cons hkeyHolds hvalueHolds hrestHolds⟩
      rw [copyEntries, Copying.bind_ok hkeyCopy, Copying.bind_ok hvalueCopy, Copying.bind_ok hrest]
      rfl
end

theorem Holds.copied {document : Document} {json : Json} (hholds : Holds document json) :
    ∃ copied, document.copied = .ok copied ∧ Holds copied json := by
  obtain ⟨copied, hcopy, hcopied⟩ := hholds.copy 0
  refine ⟨copied, ?_, hcopied⟩
  change Prod.fst <$> document.copy 0 = _
  rw [hcopy]
  rfl

mutual
theorem Holds.depth {document : Document} {json : Json} (hholds : Holds document json) :
    document.depth = json.depth := by
  cases hholds with
  | null => rfl
  | bool => rfl
  | integer => rfl
  | string => rfl
  | array hitems => rw [Document.depth, Json.depth, hitems.depth]
  | object hentries => rw [Document.depth, Json.depth, hentries.depth]

theorem ItemsHold.depth {items : List (Item Document)} {values : List Json}
    (hholds : ItemsHold items values) : itemsDepth items = Json.itemsDepth values := by
  cases hholds with
  | nil => rfl
  | cons hitem hitems => rw [itemsDepth, Json.itemsDepth, hitem.depth, hitems.depth]

theorem EntriesHold.depth {entries : List (Entry Document)} {members : List (String × Json)}
    (hholds : EntriesHold entries members) :
    entriesDepth entries = Json.membersDepth members := by
  cases hholds with
  | nil => rfl
  | cons hkey hvalue hentries =>
      rw [entriesDepth, Json.membersDepth, hkey.depth, hvalue.depth, hentries.depth, Json.depth,
        Nat.zero_max]
end

end Document

end ProviderForge

import ProviderForge.Definition.Encode
import ProviderForge.Document.Request
import ProviderForge.Proofs.Document.Holds
import ProviderForge.Proofs.Result

namespace ProviderForge.Document

open Result

theorem Holds.string_eq {document : Document} {text : String}
    (hholds : Holds document (.string text)) : document.string = .ok text := by
  cases hholds
  rfl

theorem Holds.flag_eq {document : Document} {value : Bool}
    (hholds : Holds document (.bool value)) : document.flag = .ok value := by
  cases hholds
  rfl

theorem Holds.natural_eq {document : Document} {value bound : Nat}
    (hholds : Holds document (.integer value)) (hbound : value < bound) (expected : String) :
    document.natural bound expected = .ok value := by
  cases hholds
  have hrange : (0 : Int) ≤ value ∧ (value : Int) < bound := by omega
  simp [Document.natural, resolved, Scalar.ofAtom, hrange]

/-- A choice among names is made by the text of one, except in YAML texts. -/
theorem Holds.choice_eq {document : Document} {name : String} {origin : Origin}
    {known : List String} (hholds : Holds document (.string name)) (horigin : origin ≠ .yaml)
    (hknown : name ∈ known) :
    document.choice origin known = .ok name := by
  cases hholds
  have hvariant : variant known name = .ok name := by simp [variant, hknown]
  cases origin with
  | yaml => exact absurd rfl horigin
  | text => simp [Document.choice, resolved, Scalar.ofAtom, isText, hvariant]
  | value => simp [Document.choice, resolved, Scalar.ofAtom, hvariant]
  | copy => simp [Document.choice, resolved, Scalar.ofAtom, hvariant]

theorem Holds.variantName_eq {document : Document} {name : String} {origin : Origin}
    {known : List String} (hholds : Holds document (.string name)) (hknown : name ∈ known) :
    document.variantName origin known = .ok name := by
  cases hholds
  have hvariant : variant known name = .ok name := by simp [variant, hknown]
  simp [Document.variantName, resolved, Scalar.ofAtom, hvariant]

section

variable {α : Type} {document : Document} {decode : Document → Except Fault α} {encode : α → Json}

theorem Holds.optionally_present {json : Json} (hholds : Holds document json)
    (hjson : json ≠ .null) :
    document.optionally decode = some <$> decode document := by
  cases hholds with
  | null => exact absurd rfl hjson
  | bool => rfl
  | integer => rfl
  | string => rfl
  | array => rfl
  | object => rfl

theorem Holds.optionally_eq {value : Option α} (hholds : Holds document (.ofOption encode value))
    (hpresent : ∀ part, encode part ≠ .null)
    (hdecode : ∀ part ∈ value, Holds document (encode part) → decode document = .ok part) :
    document.optionally decode = .ok value := by
  cases value with
  | none =>
      cases hholds
      rfl
  | some part =>
      rw [hholds.optionally_present (hpresent part), hdecode part rfl hholds]
      rfl

theorem ItemsHold.listItems_eq {items : List (Item Document)} {values : List α}
    (hholds : ItemsHold items (values.map encode))
    (hdecode : ∀ value ∈ values, ∀ part, Holds part (encode value) → decode part = .ok value) :
    listItems decode items = .ok values := by
  induction values generalizing items with
  | nil =>
      cases hholds
      rfl
  | cons value values ih =>
      cases hholds with
      | cons hitem hitems =>
          have hfirst := hdecode value (by simp) _ hitem
          have hrest := ih hitems fun other hmem => hdecode other (by simp [hmem])
          simp [Document.listItems, hfirst, hrest]

theorem Holds.list_eq {values : List α} (hholds : Holds document (.array (values.map encode)))
    (hdecode : ∀ value ∈ values, ∀ part, Holds part (encode value) → decode part = .ok value) :
    document.list decode = .ok values := by
  cases hholds with
  | array hitems => simp [Document.list, resolved, hitems.listItems_eq hdecode, Ending.check]

end

theorem Holds.strings_eq {document : Document} {values : List String}
    (hholds : Holds document (.strings values)) : document.strings = .ok values :=
  hholds.list_eq fun _ _ _ hpart => hpart.string_eq

theorem Holds.optionalString_eq {document : Document} {value : Option String}
    (hholds : Holds document (.ofOption .string value)) : document.optionalString = .ok value :=
  hholds.optionally_eq (by simp) fun _ _ hpart => hpart.string_eq

theorem Holds.optionalStrings_eq {document : Document} {value : Option (List String)}
    (hholds : Holds document (.ofOption .strings value)) : document.optionalStrings = .ok value :=
  hholds.optionally_eq (by simp [Json.strings]) fun _ _ hpart => hpart.strings_eq

namespace Assembly

variable {δ α : Type}

/-- The draft of a record takes the members, each into the field of its name. -/
inductive Takes (assembly : Assembly δ α) : δ → List (String × Json) → δ → Prop
  | nil {draft : δ} : assembly.Takes draft [] draft
  | cons {draft next last : δ} {key : String} {json : Json} {members : List (String × Json)}
      (hknown : key ∈ assembly.shape.names)
      (htake : ∀ document, Holds document json → assembly.take draft key document = .ok next)
      (hrest : assembly.Takes next members last) :
      assembly.Takes draft ((key, json) :: members) last

theorem Takes.append {assembly : Assembly δ α} {draft next last : δ}
    {members others : List (String × Json)} (hfirst : assembly.Takes draft members next)
    (hsecond : assembly.Takes next others last) :
    assembly.Takes draft (members ++ others) last := by
  induction hfirst with
  | nil => exact hsecond
  | cons hknown htake _ ih => exact .cons hknown htake (ih hsecond)

theorem fieldOf?_known {shape : Shape} {origin : Origin} {key : Document} {name : String}
    (hkey : Holds key (.string name)) (hknown : name ∈ shape.names) :
    shape.fieldOf? origin key = .ok (some name) := by
  cases hkey
  simp [Shape.fieldOf?, resolved, Scalar.ofAtom, hknown]

theorem Takes.optionalMember {β : Type} {assembly : Assembly δ α} {draft : δ} (key : String)
    (encode : β → Json) (value : Option β) (put : Option β → δ)
    (hknown : key ∈ assembly.shape.names) (hput : put none = draft)
    (htake : ∀ part document, Holds document (encode part) →
      assembly.take draft key document = .ok (put (some part))) :
    assembly.Takes draft (Json.optionalMember key encode value) (put value) := by
  cases value with
  | none => exact hput ▸ .nil
  | some part => exact .cons hknown (htake part) .nil

theorem Takes.listMember {assembly : Assembly δ α} {draft : δ} (key : String)
    (values : List String) (put : List String → δ) (hknown : key ∈ assembly.shape.names)
    (hput : put [] = draft)
    (htake : ∀ document, Holds document (.strings values) →
      assembly.take draft key document = .ok (put values)) :
    assembly.Takes draft (Json.listMember key values) (put values) := by
  cases values with
  | nil => exact hput ▸ .nil
  | cons value values => exact .cons hknown htake .nil

theorem fieldOf?_unknown {shape : Shape} {origin : Origin} {key : Document} {name : String}
    (hkey : Holds key (.string name)) (hunknown : name ∉ shape.names) :
    shape.fieldOf? origin key = .ok none := by
  cases hkey
  simp [Shape.fieldOf?, resolved, Scalar.ofAtom, hunknown]

theorem Takes.takeEntries_eq {assembly : Assembly δ α} {draft last : δ}
    {members : List (String × Json)} (htakes : assembly.Takes draft members last)
    {entries : List (Entry Document)} (hholds : EntriesHold entries members) (seen : List String)
    (hnodup : (members.map Prod.fst).Nodup) (hfresh : ∀ key ∈ members.map Prod.fst, key ∉ seen)
    (origin : Origin) (others : List (Entry Document)) :
    assembly.takeEntries origin (entries ++ others) seen draft =
      assembly.takeEntries origin others ((members.map Prod.fst).reverse ++ seen) last := by
  induction htakes generalizing entries seen with
  | nil =>
      cases hholds
      rfl
  | @cons draft next last key json members hknown htake hrest ih =>
      cases hholds with
      | @cons entry _ _ entries _ hkey hvalue hentries =>
          rw [List.map_cons, List.nodup_cons] at hnodup
          have hseen : key ∉ seen := hfresh key (by simp)
          have hlater : ∀ other ∈ members.map Prod.fst, other ∉ key :: seen := by
            intro other hmem hin
            rcases List.mem_cons.mp hin with rfl | hin
            · exact hnodup.1 hmem
            · exact hfresh other (by simp [hmem]) hin
          rw [List.cons_append, takeEntries, fieldOf?_known hkey hknown]
          simp only [ok_bind]
          rw [if_neg (by simpa using hseen), htake _ hvalue]
          simp only [locate_ok, ok_bind]
          rw [ih hentries (key :: seen) hnodup.2 hlater, List.map_cons, List.reverse_cons,
            List.append_assoc]
          rfl

/-- A record whose members all have fields is read whatever the origin of its document. -/
theorem Takes.read_eq {assembly : Assembly δ α} {draft last : δ} {result : α}
    {members : List (String × Json)} (htakes : assembly.Takes draft members last)
    (hnodup : (members.map Prod.fst).Nodup) (hcomplete : assembly.complete last = .ok result)
    {document : Document} (hholds : Holds document (.object members)) (origin : Origin) :
    assembly.read origin draft document = .ok result := by
  cases hholds with
  | @object entries _ location start hentries =>
      have hentries := htakes.takeEntries_eq hentries [] hnodup (by simp) origin []
      rw [List.append_nil] at hentries
      rw [read]
      simp [resolved, hentries, takeEntries, Ending.check, hcomplete]

end Assembly

theorem keyText_of_holds {entry : Entry Document} {key : Document} {name : String}
    (hkey : Holds key (.string name)) : keyText { entry with key := key } = name := by
  cases hkey
  rfl

theorem EntriesHold.splitChoice_others {entries : List (Entry Document)}
    {members : List (String × Json)} (hholds : EntriesHold entries members) {tagName : String}
    (htag : tagName ∉ members.map Prod.fst) (origin : Origin) (known : List String)
    (chosen : Option String) :
    ∃ others, splitChoice origin tagName known entries chosen = .ok (chosen, others) ∧
      EntriesHold others members := by
  induction members generalizing entries with
  | nil =>
      cases hholds
      exact ⟨[], rfl, .nil⟩
  | cons member members ih =>
      cases hholds with
      | @cons entry name json entries _ hkey hvalue hentries =>
          rw [List.map_cons, List.mem_cons, not_or] at htag
          obtain ⟨key, hkeyCopy, hkeyHolds⟩ := hkey.copied
          obtain ⟨value, hvalueCopy, hvalueHolds⟩ := hvalue.copied
          obtain ⟨others, hothers, hothersHold⟩ := ih hentries htag.2
          refine ⟨⟨key, value, none, none⟩ :: others, ?_, .cons hkeyHolds hvalueHolds hothersHold⟩
          rw [splitChoice, hkeyCopy]
          simp only [locate_ok, ok_bind]
          rw [keyText_of_holds hkeyHolds, if_neg (Ne.symm htag.1), hvalueCopy]
          simp [hothers]

theorem EntriesHold.splitChoice_eq {entries : List (Entry Document)} {tagName name : String}
    {members : List (String × Json)}
    (hholds : EntriesHold entries ((tagName, .string name) :: members))
    (htag : tagName ∉ members.map Prod.fst) (origin : Origin) {known : List String}
    (hknown : name ∈ known) :
    ∃ others, splitChoice origin tagName known entries none = .ok (some name, others) ∧
      EntriesHold others members := by
  cases hholds with
  | cons hkey hvalue hentries =>
      obtain ⟨key, hkeyCopy, hkeyHolds⟩ := hkey.copied
      obtain ⟨others, hothers, hothersHold⟩ :=
        hentries.splitChoice_others htag origin known (some name)
      refine ⟨others, ?_, hothersHold⟩
      rw [splitChoice, hkeyCopy]
      simp only [locate_ok, ok_bind]
      rw [keyText_of_holds hkeyHolds, if_pos rfl, hvalue.variantName_eq hknown]
      simp [hothers]

theorem Holds.taggedChoice_eq {document : Document} {tagName name : String}
    {members : List (String × Json)}
    (hholds : Holds document (.object ((tagName, .string name) :: members)))
    (htag : tagName ∉ members.map Prod.fst) (origin : Origin) (typeName : String)
    {known : List String} (hknown : name ∈ known) :
    ∃ content, document.taggedChoice origin typeName tagName known = .ok (name, content) ∧
      Holds content (.object members) := by
  cases hholds with
  | object hentries =>
      obtain ⟨others, hsplit, hothers⟩ := hentries.splitChoice_eq htag origin hknown
      refine ⟨.mapping none others (.closed none) none, ?_, .object hothers⟩
      simp [Document.taggedChoice, resolved, hsplit, Ending.check, present]

end ProviderForge.Document

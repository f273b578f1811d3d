import ProviderForge.Document.Request
import ProviderForge.Proofs.Definition.Variation
import ProviderForge.Proofs.Result

namespace ProviderForge

open Json (Source)
open Json.Source (IsPlain IsUsable)
open Document Result

@[simp] theorem locate_eq_ok {α : Type} {location : Option Location} {result : Except Fault α}
    {value : α} : locate location result = .ok value ↔ result = .ok value := by
  cases result <;> simp [locate, Except.mapError]

theorem Varies.itemsVary {slot : Slot} {items others : List Source}
    (hvaries : Varies slot (.array items) (.array others)) (hslot : slot ≠ .choice) :
    ItemsVary slot 0 items others := by
  cases hvaries with
  | choice => exact absurd rfl hslot
  | array _ hitems => exact hitems

theorem Varies.rearranges {slot : Slot} {members others : List (Option String × Source)}
    (hvaries : Varies slot (.object members) (.object others)) (hslot : slot ≠ .choice) :
    Rearranges slot members others := by
  cases hvaries with
  | choice => exact absurd rfl hslot
  | object _ hmembers horder => exact ⟨_, hmembers, horder⟩

theorem Varies.eq_of_choice {source other : Source} (hvaries : Varies .choice source other) :
    source = other := by
  cases hvaries with
  | scalar => rfl
  | choice => rfl
  | array hslot => exact absurd rfl hslot
  | object hslot => exact absurd rfl hslot

/-- Documents of a value and of a variation of it. -/
inductive Twins (origin : Origin) (slot : Slot) : Document → Document → Prop
  | scalar {atom : Atom} {start after begin behind : Option Location} :
      Twins origin slot (.scalar (.ofAtom atom) start after) (.scalar (.ofAtom atom) begin behind)
  | sequence {room : Nat} {items others : List Source} {parts copies : List (Item Document)}
      {location place start begin : Option Location} (hitems : ItemsShow origin room items parts)
      (hothers : ItemsShow origin room others copies)
      (hvaries : Varies slot (.array items) (.array others)) :
      Twins origin slot (.sequence none parts (.closed location) start)
        (.sequence none copies (.closed place) begin)
  | mapping {room : Nat} {members others : List (Option String × Source)}
      {entries copies : List (Entry Document)} {location place start begin : Option Location}
      (hmembers : MembersShow origin room members entries)
      (hothers : MembersShow origin room others copies)
      (hvaries : Varies slot (.object members) (.object others)) :
      Twins origin slot (.mapping none entries (.closed location) start)
        (.mapping none copies (.closed place) begin)
  | unusable {breakage other : Breakage} (hfirst : breakage.absence = none)
      (hother : other.absence = none) : Twins origin slot (.unusable breakage) (.unusable other)

section

variable {slot : Slot} {origin : Origin} {room : Nat} {document other : Document}

theorem twins_of_scalar {value : Option Atom} (hshows : Shows origin room (.scalar value) document)
    (hother : Shows origin room (.scalar value) other) : Twins origin slot document other := by
  cases hshows with
  | scalar =>
      obtain ⟨_, _, rfl⟩ := hother.of_atom
      exact .scalar
  | lost _ hlost _ habsence =>
      cases hother with
      | scalar => cases hlost
      | lost _ _ _ hotherAbsence => exact .unusable habsence hotherAbsence

theorem twins_of_array {items others : List Source}
    (hvaries : Varies slot (.array items) (.array others))
    (hshows : Shows origin room (.array items) document)
    (hother : Shows origin room (.array others) other) : Twins origin slot document other := by
  cases hshows with
  | array hitems =>
      cases hother with
      | array hothers => exact .sequence hitems hothers hvaries
      | lost _ hlost => cases hlost
  | lost _ hlost _ habsence =>
      cases hother with
      | array => cases hlost
      | lost _ _ _ hotherAbsence => exact .unusable habsence hotherAbsence

theorem twins_of_object {members others : List (Option String × Source)}
    (hvaries : Varies slot (.object members) (.object others))
    (hshows : Shows origin room (.object members) document)
    (hother : Shows origin room (.object others) other) : Twins origin slot document other := by
  cases hshows with
  | object hmembers =>
      cases hother with
      | object hothers => exact .mapping hmembers hothers hvaries
      | lost _ hlost => cases hlost
  | lost _ hlost _ habsence =>
      cases hother with
      | object => cases hlost
      | lost _ _ _ hotherAbsence => exact .unusable habsence hotherAbsence

theorem Varies.twins {source varied : Source} (hvaries : Varies slot source varied)
    (hshows : Shows origin room source document) (hother : Shows origin room varied other) :
    Twins origin slot document other := by
  cases hvaries with
  | scalar => exact twins_of_scalar hshows hother
  | choice =>
      cases source with
      | scalar => exact twins_of_scalar hshows hother
      | array => exact twins_of_array .choice hshows hother
      | object => exact twins_of_object .choice hshows hother
  | array hslot hitems => exact twins_of_array (.array hslot hitems) hshows hother
  | object hslot hmembers horder =>
      exact twins_of_object (.object hslot hmembers horder) hshows hother

end

/-- What the request makes of a value it makes of its variations. -/
def Steady (origin : Origin) (slot : Slot) {α : Type} (request : Document → Except Fault α) :
    Prop :=
  ∀ ⦃document other : Document⦄ ⦃value : α⦄, Twins origin slot document other →
    request document = .ok value → request other = .ok value

namespace Steady

variable {origin : Origin} {slot : Slot} {α β : Type}

theorem map {request : Document → Except Fault α} (hrequest : Steady origin slot request)
    (change : α → β) : Steady origin slot fun document => change <$> request document := by
  intro document other value htwins hread
  obtain ⟨middle, hmiddle, rfl⟩ := map_eq_ok.mp hread
  exact map_eq_ok.mpr ⟨middle, hrequest htwins hmiddle, rfl⟩

theorem put {request : Document → Except Fault α} (hrequest : Steady origin slot request)
    (change : α → β) :
    Steady origin slot fun document => request document >>= fun found => pure (change found) := by
  intro document other value htwins hread
  obtain ⟨found, hfound, hchange⟩ := bind_eq_ok.mp hread
  exact bind_eq_ok.mpr ⟨found, hrequest htwins hfound, hchange⟩

theorem string : Steady origin slot Document.string := by
  intro document other value htwins hread
  cases htwins with
  | @scalar atom =>
      cases atom with
      | string text => exact hread
      | _ => cases hread
  | _ => cases hread

theorem flag : Steady origin slot Document.flag := by
  intro document other value htwins hread
  cases htwins with
  | @scalar atom =>
      cases atom with
      | flag => exact hread
      | _ => cases hread
  | _ => cases hread

theorem natural (bound : Nat) (expected : String) :
    Steady origin slot (Document.natural bound expected) := by
  intro document other value htwins hread
  cases htwins with
  | @scalar atom =>
      cases atom with
      | integer number =>
          simp only [Document.natural, resolved, Scalar.ofAtom] at hread ⊢
          split at hread
          next hrange => rw [if_pos hrange, hread]
          next => cases hread
      | _ => cases hread
  | _ => cases hread

theorem optionally {request : Document → Except Fault α} (hrequest : Steady origin slot request) :
    Steady origin slot fun document => document.optionally request := by
  intro document other value htwins hread
  have hpresent : some <$> request document = .ok value → some <$> request other = .ok value :=
    fun hread => hrequest.map some htwins hread
  cases htwins with
  | @scalar atom =>
      cases atom with
      | absent => exact hread
      | _ => exact hpresent hread
  | sequence => exact hpresent hread
  | mapping => exact hpresent hread
  | unusable hfirst hother =>
      simp only [Document.optionally, resolved, hfirst, hother] at hread ⊢
      exact hpresent hread

theorem listItems {request following : Document → Except Fault α} {items others : List Source}
    {index : Nat} (hvary : ItemsVary slot index items others) {room : Nat}
    {parts copies : List (Item Document)} (hitems : ItemsShow origin room items parts)
    (hothers : ItemsShow origin room others copies)
    (hfollows : ∀ copy ∈ copies, ∀ {index : Nat} {document : Document} {value : α},
      Twins origin (slot.item index) document copy.value → request document = .ok value →
        following copy.value = .ok value)
    {values : List α} (hread : Document.listItems request parts = .ok values) :
    Document.listItems following copies = .ok values := by
  induction parts generalizing items others copies index values with
  | nil =>
      cases hitems
      cases hvary
      cases hothers
      exact hread
  | cons part parts ih =>
      cases hitems with
      | cons hitem _ hitems =>
          cases hvary with
          | cons hfirst hvary =>
              cases hothers with
              | cons hother _ hothers =>
                  simp only [Document.listItems, bind_eq_ok, locate_eq_ok, pure_eq_ok] at hread ⊢
                  obtain ⟨value, hvalue, rest, hrest, rfl⟩ := hread
                  obtain ⟨hcopy, hfollows⟩ := List.forall_mem_cons.mp hfollows
                  exact ⟨value, hcopy (hfirst.twins hitem hother) hvalue, rest,
                    ih hvary hitems hothers hfollows hrest, rfl⟩

theorem list {request : Document → Except Fault α} (hslot : slot ≠ .choice)
    (hrequest : ∀ index, Steady origin (slot.item index) request) :
    Steady origin slot (Document.list request) := by
  intro document other values htwins hread
  cases htwins with
  | scalar => cases hread
  | sequence hitems hothers hvaries =>
      simp only [Document.list, resolved, bind_eq_ok, pure_eq_ok] at hread ⊢
      obtain ⟨values, hvalues, _, -, rfl⟩ := hread
      exact ⟨values, listItems (hvaries.itemsVary hslot) hitems hothers
        (fun _ _ _ _ _ htwins hvalue => hrequest _ htwins hvalue) hvalues, _, rfl, rfl⟩
  | mapping => cases hread
  | unusable => cases hread

theorem strings (hslot : slot ≠ .choice) : Steady origin slot Document.strings :=
  list hslot fun _ => string

theorem unit : Steady origin .choice (Document.unit origin) := by
  intro document other value htwins hread
  cases htwins with
  | @scalar atom =>
      cases atom with
      | absent => exact hread
      | _ => cases hread
  | mapping hmembers hothers hvaries =>
      cases hvaries.eq_of_choice
      cases hmembers with
      | nil =>
          cases hothers
          simp only [Document.unit, resolved] at hread ⊢
          split at hread
          next horigin => rw [if_pos horigin, hread]
          next => cases hread
      | cons => cases hread
  | _ => cases hread

theorem variantName (known : List String) :
    Steady origin slot (Document.variantName origin known) := by
  intro document other value htwins hread
  cases htwins with
  | @scalar atom =>
      cases atom with
      | string =>
          simp only [Document.variantName, resolved, Scalar.ofAtom, locate_eq_ok] at hread ⊢
          exact hread
      | integer number =>
          cases origin with
          | copy =>
              simp only [Document.variantName, resolved, Scalar.ofAtom] at hread ⊢
              split at hread
              next hrange => rw [if_pos hrange, hread]
              next => cases hread
          | _ => cases hread
      | _ => cases origin <;> cases hread
  | _ => cases hread

theorem keyVariant (known : List String) :
    Steady origin slot (Document.keyVariant origin known) := by
  intro document other value htwins hread
  have hname := @variantName origin slot known document other value htwins
  cases htwins with
  | scalar => exact hname hread
  | sequence => exact hname hread
  | mapping => exact hname hread
  | unusable => cases hread

theorem choiceByMember (horigin : origin = .text ∨ origin = .copy) (known : List String)
    {room : Nat} {members : List (Option String × Source)} {entries copies : List (Entry Document)}
    {location place start begin : Option Location} {name : String}
    (hmembers : MembersShow origin room members entries)
    (hothers : MembersShow origin room members copies)
    (hread : Document.choiceByMember origin known entries (.closed location) start = .ok name) :
    Document.choiceByMember origin known copies (.closed place) begin = .ok name := by
  cases hmembers with
  | nil => rcases horigin with rfl | rfl <;> cases hread
  | cons hkey hvalue hmembers =>
      cases hothers with
      | cons hotherKey hotherValue hothers =>
          have hname := fun name => @keyVariant origin .any known _ _ name
            (twins_of_scalar hkey hotherKey)
          have hunit := @unit origin _ _ () (Varies.choice.twins hvalue hotherValue)
          cases hmembers with
          | nil =>
              cases hothers
              rcases horigin with rfl | rfl
              all_goals
                simp only [Document.choiceByMember, bind_eq_ok] at hread ⊢
                obtain ⟨found, hfound, _, hcontent, hread⟩ := hread
                exact ⟨found, hname found hfound, _, hunit hcontent, hread⟩
          | cons =>
              rcases horigin with rfl | rfl
              · simp only [Document.choiceByMember, bind_eq_ok] at hread
                obtain ⟨_, _, _, _, hread⟩ := hread
                cases hread
              · cases hread

theorem choice (horigin : origin = .text ∨ origin = .copy) (known : List String) :
    Steady origin .choice (Document.choice origin known) := by
  intro document other value htwins hread
  cases htwins with
  | @scalar atom =>
      cases atom with
      | string =>
          rcases horigin with rfl | rfl
          all_goals
            simp only [Document.choice, resolved, Scalar.ofAtom, isText, if_true, locate_eq_ok]
              at hread ⊢
            exact hread
      | _ => rcases horigin with rfl | rfl <;> cases hread
  | sequence => rcases horigin with rfl | rfl <;> cases hread
  | mapping hmembers hothers hvaries =>
      cases hvaries.eq_of_choice
      rcases horigin with rfl | rfl
      · exact choiceByMember (.inl rfl) known hmembers hothers hread
      · exact choiceByMember (.inr rfl) known hmembers hothers hread
  | unusable => rcases horigin with rfl | rfl <;> cases hread

end Steady

/-- A value that holds the default is read as what the default stands for. -/
def Answers (origin : Origin) (default : Default) {α : Type} (request : Document → Except Fault α)
    (standard : α) : Prop :=
  ∀ ⦃room : Nat⦄ ⦃source : Source⦄ ⦃document : Document⦄ ⦃value : α⦄, default.IsHeldBy source →
    Shows origin room source document → request document = .ok value → value = standard

namespace Answers

variable {origin : Origin} {default : Default} {α β : Type}
  {request : Document → Except Fault α}

theorem required {standard : α} : Answers origin .required request standard :=
  fun _ _ _ _ hheld => nomatch hheld

theorem put {standard : α} (hanswers : Answers origin default request standard) (change : α → β) :
    Answers origin default (fun document => request document >>= fun found => pure (change found))
      (change standard) := by
  intro room source document value hheld hshows hread
  obtain ⟨found, hfound, ⟨⟩⟩ := bind_eq_ok.mp hread
  rw [hanswers hheld hshows hfound]

theorem optionally : Answers origin .null (Document.optionally · request) none := by
  intro room source document value hheld hshows hread
  cases hheld
  obtain ⟨_, _, rfl⟩ := hshows.of_atom
  cases hread
  rfl

theorem flag : Answers origin .off Document.flag false := by
  intro room source document value hheld hshows hread
  cases hheld
  obtain ⟨_, _, rfl⟩ := hshows.of_atom
  cases hread
  rfl

theorem string {text : String} : Answers origin (.text text) Document.string text := by
  intro room source document value hheld hshows hread
  cases hheld
  obtain ⟨_, _, rfl⟩ := hshows.of_atom
  cases hread
  rfl

theorem list : Answers origin .noItems (Document.list request) [] := by
  intro room source document value hheld hshows hread
  cases hheld
  cases hshows with
  | array hitems =>
      cases hitems
      cases hread
      rfl
  | lost => cases hread

theorem natural {number bound : Nat} {expected : String} :
    Answers origin (.number number) (Document.natural bound expected) number := by
  intro room source document value hheld hshows hread
  cases hheld
  obtain ⟨_, _, rfl⟩ := hshows.of_atom
  simp only [Document.natural, resolved, Scalar.ofAtom] at hread
  split at hread
  next =>
    cases hread
    rfl
  next => cases hread

theorem map {standard : α} (hanswers : Answers origin default request standard) (change : α → β) :
    Answers origin default (fun document => change <$> request document) (change standard) := by
  intro room source document value hheld hshows hread
  obtain ⟨found, hfound, rfl⟩ := map_eq_ok.mp hread
  rw [hanswers hheld hshows hfound]

end Answers

end ProviderForge

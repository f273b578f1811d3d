import Mathlib.Data.List.Perm.Basic
import ProviderForge.Definition.Entity
import ProviderForge.Proofs.Document.Shows

/-!
Variations of a definitions text that say the same: members of objects are put in another order,
members that no type declares come in, and members that hold their default are left out. Only an
object that stands for a choice, whose single member names the choice, is left as it is.
-/

namespace ProviderForge

open Json (Source)

namespace Json.Source

def null : Source := .scalar (some (.absent "null"))

def flag (value : Bool) : Source := .scalar (some (.flag value))

def number (value : Int) : Source := .scalar (some (.integer value))

def text (value : String) : Source := .scalar (some (.string value))

inductive IsPlain : Source → Prop
  | null : IsPlain null
  | flag (value : Bool) : IsPlain (flag value)
  | text (value : String) : IsPlain (text value)

end Json.Source

open Json.Source (IsPlain IsUsable)

/-- What a declared member stands for where it is left out. -/
inductive Default
  | required
  | null
  | off
  | noItems
  | text (value : String)
  | number (value : Int)
  | choice (name : String)
  | simpleRead
  | noFillers

inductive Default.IsHeldBy : Default → Source → Prop
  | null : IsHeldBy .null .null
  | off : IsHeldBy .off (.flag false)
  | noItems : IsHeldBy .noItems (.array [])
  | text {value : String} : IsHeldBy (.text value) (.text value)
  | number {value : Int} : IsHeldBy (.number value) (.number value)
  | chosenText {name : String} : IsHeldBy (.choice name) (.text name)
  | chosenMember {name : String} {content : Source} :
      IsHeldBy (.choice name) (.object [(some name, content)])
  | simpleMembers {members : List (Option String × Source)}
      (hkind : (some "kind", .text "simple") ∈ members) : IsHeldBy .simpleRead (.object members)
  | simpleItems {items : List Source} : IsHeldBy .simpleRead (.array (.text "simple" :: items))
  | noFillersMembers {members : List (Option String × Source)}
      (hoff : ∀ value, (some "model_fillers", value) ∈ members → value = .flag false) :
      IsHeldBy .noFillers (.object members)
  | noFillersItems {items : List Source} (hoff : ∀ item ∈ items, item = .flag false) :
      IsHeldBy .noFillers (.array items)

/-- What the types of definitions expect where a value stands. -/
inductive Slot
  /-- No object or list with members or items of its own. -/
  | any
  | choice
  | list (item : Slot)
  | definitions
  | dataSource
  | dataSourceApi
  | readStrategy
  | generateOptions
  | resource
  | resourceApi
  | operation
  | listRead
  | attributeRecord
deriving DecidableEq

structure DeclaredMember where
  name : String
  slot : Slot := .any
  default : Default := .required

namespace Slot

/-- The members that the types at a place declare, for records in the order of the fields. -/
def members : Slot → List DeclaredMember
  | any | choice | list _ => []
  | definitions =>
      [{ name := "data_sources", slot := .list .dataSource, default := .noItems },
        { name := "resources", slot := .list .resource, default := .noItems }]
  | dataSource =>
      [{ name := "name" }, { name := "description" },
        { name := "api", slot := .dataSourceApi },
        { name := "generate", slot := .generateOptions, default := .noFillers },
        { name := "attributes", slot := .list .attributeRecord }]
  | dataSourceApi =>
      [{ name := "model" }, { name := "read_method" },
        { name := "read_request_attributes", default := .noItems },
        { name := "read_strategy", slot := .readStrategy, default := .simpleRead }]
  | readStrategy =>
      [{ name := "kind" }, { name := "read_model", default := .null },
        { name := "read_init_loop", default := .null },
        { name := "read_pre_iterate", default := .null },
        { name := "read_post_iterate", default := .null }]
  | generateOptions => [{ name := "model_fillers", default := .off }]
  | resource =>
      [{ name := "name" }, { name := "description" },
        { name := "api", slot := .resourceApi },
        { name := "import_state_attributes", default := .noItems },
        { name := "attributes", slot := .list .attributeRecord }]
  | resourceApi =>
      [{ name := "model", default := .null }, { name := "create", slot := .operation },
        { name := "read", slot := .operation },
        { name := "paginated_read", slot := .listRead, default := .null },
        { name := "update", slot := .operation, default := .null },
        { name := "delete", slot := .operation, default := .null }]
  | operation =>
      [{ name := "method" }, { name := "request_attributes", default := .noItems }]
  | listRead =>
      [{ name := "read_model", default := .null },
        { name := "cursor_field", default := .text "last_id" },
        { name := "has_more_field", default := .text "has_more" },
        { name := "page_limit", default := .number 100 },
        { name := "retry_attempts", default := .number 10 },
        { name := "retry_delay_secs", default := .number 5 },
        { name := "init_loop", default := .null }, { name := "pre_iterate", default := .null },
        { name := "post_iterate", default := .null }]
  | attributeRecord =>
      [{ name := "name" }, { name := "description" },
        { name := "deprecation_message", default := .null },
        { name := "computed_optional_required", slot := .choice },
        { name := "sensitive", default := .off }, { name := "validators", default := .noItems },
        { name := "plan_modifiers", default := .noItems }, { name := "nullable", default := .off },
        { name := "source_attribute", default := .null },
        { name := "source_type", slot := .choice, default := .null },
        { name := "destination_attribute", default := .null },
        { name := "skip_fill", default := .off }, { name := "custom_fill", default := .null },
        { name := "type" },
        { name := "element_type", slot := .choice, default := .choice "string" },
        { name := "attributes", slot := .list .attributeRecord }, { name := "model" }]

def names (slot : Slot) : List String :=
  slot.members.map (·.name)

def declared? (slot : Slot) (name : String) : Option DeclaredMember :=
  slot.members.find? (·.name == name)

def member (slot : Slot) (name : Option String) : Slot :=
  ((name.bind slot.declared?).map (·.slot)).getD .any

def default (slot : Slot) (name : String) : Default :=
  ((slot.declared? name).map (·.default)).getD .required

/-- What is expected of an item of a list. A record may be a list of its fields. -/
def item (slot : Slot) (index : Nat) : Slot :=
  match slot with
  | list item => item
  | _ => ((slot.members[index]?).map (·.slot)).getD .any

end Slot

mutual
/-- The second value says what the first says, where the slot tells what they are read for. -/
inductive Varies : Slot → Source → Source → Prop
  | scalar {slot : Slot} {value : Option Atom} : Varies slot (.scalar value) (.scalar value)
  | choice {source : Source} : Varies .choice source source
  | array {slot : Slot} {items others : List Source} (hslot : slot ≠ .choice)
      (hitems : ItemsVary slot 0 items others) : Varies slot (.array items) (.array others)
  | object {slot : Slot} {members changed others : List (Option String × Source)}
      (hslot : slot ≠ .choice) (hmembers : MembersVary slot members changed)
      (horder : changed.Perm others) : Varies slot (.object members) (.object others)

inductive ItemsVary : Slot → Nat → List Source → List Source → Prop
  | nil {slot : Slot} {index : Nat} : ItemsVary slot index [] []
  | cons {slot : Slot} {index : Nat} {item other : Source} {items others : List Source}
      (hitem : Varies (slot.item index) item other)
      (hitems : ItemsVary slot (index + 1) items others) :
      ItemsVary slot index (item :: items) (other :: others)

inductive MembersVary : Slot → List (Option String × Source) → List (Option String × Source) → Prop
  | nil {slot : Slot} : MembersVary slot [] []
  | keep {slot : Slot} {name : Option String} {value other : Source}
      {members others : List (Option String × Source)}
      (hvalue : Varies (slot.member name) value other)
      (hmembers : MembersVary slot members others) :
      MembersVary slot ((name, value) :: members) ((name, other) :: others)
  | add {slot : Slot} {name : String} {value : Source}
      {members others : List (Option String × Source)} (hname : name ∉ slot.names)
      (hvalue : IsPlain value) (hmembers : MembersVary slot members others) :
      MembersVary slot members ((some name, value) :: others)
  | leave {slot : Slot} {name : String} {value : Source}
      {members others : List (Option String × Source)} (hvalue : (slot.default name).IsHeldBy value)
      (hmembers : MembersVary slot members others) :
      MembersVary slot ((some name, value) :: members) others
end

def Rearranges (slot : Slot) (members others : List (Option String × Source)) : Prop :=
  ∃ changed, MembersVary slot members changed ∧ changed.Perm others

theorem ItemsVary.length_eq {slot : Slot} {index : Nat} {items others : List Source}
    (hvary : ItemsVary slot index items others) : items.length = others.length := by
  induction others generalizing items index with
  | nil => cases hvary; rfl
  | cons _ _ ih =>
      cases hvary with
      | cons _ hitems => simp [ih hitems]

theorem Json.Source.IsPlain.isUsable {value : Source} (hplain : IsPlain value) (room : Nat) :
    IsUsable room value := by
  cases hplain <;> exact .scalar

theorem MembersVary.named {slot : Slot} {members others : List (Option String × Source)}
    (hvary : MembersVary slot members others)
    (hnames : ∀ member ∈ members, ∃ name, member.1 = some name) :
    ∀ member ∈ others, ∃ name, member.1 = some name := by
  match members, others, hvary with
  | _, _, .nil => exact List.forall_mem_nil _
  | _, _, .keep _ hmembers =>
      obtain ⟨hname, hnames⟩ := List.forall_mem_cons.mp hnames
      exact List.forall_mem_cons.mpr ⟨hname, hmembers.named hnames⟩
  | _, _, .add _ _ hmembers =>
      exact List.forall_mem_cons.mpr ⟨⟨_, rfl⟩, hmembers.named hnames⟩
  | _, _, .leave _ hmembers => exact hmembers.named (List.forall_mem_cons.mp hnames).2
termination_by members.length + others.length

mutual
theorem Varies.isUsable {slot : Slot} {source other : Source} (hvaries : Varies slot source other)
    {room : Nat} (husable : IsUsable room source) : IsUsable room other := by
  cases hvaries with
  | scalar => exact husable
  | choice => exact husable
  | array _ hitems =>
      cases husable with
      | array husable => exact .array (hitems.usable husable)
  | object _ hmembers horder =>
      cases husable with
      | object hnames hvalues =>
          exact .object
            (fun member hmem => hmembers.named hnames member (horder.mem_iff.mpr hmem))
            fun member hmem => hmembers.usable hvalues member (horder.mem_iff.mpr hmem)
termination_by (sizeOf source, 0)

theorem ItemsVary.usable {slot : Slot} {index : Nat} {items others : List Source}
    (hvary : ItemsVary slot index items others) {room : Nat}
    (husable : ∀ item ∈ items, IsUsable room item) : ∀ item ∈ others, IsUsable room item := by
  cases hvary with
  | nil => exact List.forall_mem_nil _
  | cons hitem hitems =>
      obtain ⟨husableItem, husableRest⟩ := List.forall_mem_cons.mp husable
      exact List.forall_mem_cons.mpr ⟨hitem.isUsable husableItem, hitems.usable husableRest⟩
termination_by (sizeOf items, 0)

theorem MembersVary.usable {slot : Slot} {members others : List (Option String × Source)}
    (hvary : MembersVary slot members others) {room : Nat}
    (hvalues : ∀ member ∈ members, IsUsable room member.2) :
    ∀ member ∈ others, IsUsable room member.2 := by
  cases hvary with
  | nil => exact List.forall_mem_nil _
  | keep hvalue hmembers =>
      obtain ⟨husable, hvalues⟩ := List.forall_mem_cons.mp hvalues
      exact List.forall_mem_cons.mpr ⟨hvalue.isUsable husable, hmembers.usable hvalues⟩
  | add _ hplain hmembers =>
      exact List.forall_mem_cons.mpr ⟨hplain.isUsable room, hmembers.usable hvalues⟩
  | leave _ hmembers => exact hmembers.usable (List.forall_mem_cons.mp hvalues).2
termination_by (sizeOf members, others.length)
end

theorem Rearranges.named {slot : Slot} {members others : List (Option String × Source)}
    (hvary : Rearranges slot members others)
    (hnames : ∀ member ∈ members, ∃ name, member.1 = some name) :
    ∀ member ∈ others, ∃ name, member.1 = some name := by
  obtain ⟨changed, hmembers, horder⟩ := hvary
  exact fun member hmem => hmembers.named hnames member (horder.mem_iff.mpr hmem)

theorem Rearranges.usable {slot : Slot} {members others : List (Option String × Source)}
    (hvary : Rearranges slot members others) {room : Nat}
    (hvalues : ∀ member ∈ members, IsUsable room member.2) :
    ∀ member ∈ others, IsUsable room member.2 := by
  obtain ⟨changed, hmembers, horder⟩ := hvary
  exact fun member hmem => hmembers.usable hvalues member (horder.mem_iff.mpr hmem)

theorem MembersVary.filter {slot : Slot} {members others : List (Option String × Source)}
    (hvary : MembersVary slot members others) (keep : Option String → Bool) :
    MembersVary slot (members.filter (keep ·.1)) (others.filter (keep ·.1)) := by
  match members, others, hvary with
  | _, _, .nil => exact .nil
  | _, _, @MembersVary.keep _ name _ _ _ _ hvalue hmembers =>
      have hrest := hmembers.filter keep
      cases hkeep : keep name with
      | true => simpa [List.filter_cons, hkeep] using MembersVary.keep hvalue hrest
      | false => simpa [List.filter_cons, hkeep] using hrest
  | _, _, @MembersVary.add _ name _ _ _ hname hvalue hmembers =>
      have hrest := hmembers.filter keep
      cases hkeep : keep (some name) with
      | true => simpa [List.filter_cons, hkeep] using MembersVary.add hname hvalue hrest
      | false => simpa [List.filter_cons, hkeep] using hrest
  | _, _, @MembersVary.leave _ name _ _ _ hvalue hmembers =>
      have hrest := hmembers.filter keep
      cases hkeep : keep (some name) with
      | true => simpa [List.filter_cons, hkeep] using MembersVary.leave hvalue hrest
      | false => simpa [List.filter_cons, hkeep] using hrest
termination_by members.length + others.length

theorem Rearranges.filter {slot : Slot} {members others : List (Option String × Source)}
    (hvary : Rearranges slot members others) (keep : Option String → Bool) :
    Rearranges slot (members.filter (keep ·.1)) (others.filter (keep ·.1)) := by
  obtain ⟨changed, hmembers, horder⟩ := hvary
  exact ⟨_, hmembers.filter keep, horder.filter _⟩

structure MemberVaries (slot : Slot) (member other : Option String × Source) : Prop where
  name : member.1 = other.1
  value : Varies (slot.member member.1) member.2 other.2

def IsLeft (slot : Slot) (member : Option String × Source) : Prop :=
  ∃ name, member.1 = some name ∧ (slot.default name).IsHeldBy member.2

def IsAdded (slot : Slot) (member : Option String × Source) : Prop :=
  ∃ name, member.1 = some name ∧ name ∉ slot.names ∧ IsPlain member.2

/-- But for their order, the members are those that are left out and those that stay, and the
others are those that come in and those that stay. -/
theorem MembersVary.parts {slot : Slot} {members others : List (Option String × Source)}
    (hvary : MembersVary slot members others) :
    ∃ gone kept added changed, members.Perm (gone ++ kept) ∧ others.Perm (added ++ changed) ∧
      (∀ member ∈ gone, IsLeft slot member) ∧ (∀ member ∈ added, IsAdded slot member) ∧
      List.Forall₂ (MemberVaries slot) kept changed := by
  match members, others, hvary with
  | _, _, .nil => exact ⟨[], [], [], [], .nil, .nil, List.forall_mem_nil _,
      List.forall_mem_nil _, .nil⟩
  | _, _, .keep hvalue hmembers =>
      obtain ⟨gone, kept, added, changed, hbefore, hafter, hgone, hadded, hkept⟩ := hmembers.parts
      exact ⟨gone, _ :: kept, added, _ :: changed, (hbefore.cons _).trans List.perm_middle.symm,
        (hafter.cons _).trans List.perm_middle.symm, hgone, hadded, .cons ⟨rfl, hvalue⟩ hkept⟩
  | _, _, .add hname hvalue hmembers =>
      obtain ⟨gone, kept, added, changed, hbefore, hafter, hgone, hadded, hkept⟩ := hmembers.parts
      exact ⟨gone, kept, _ :: added, changed, hbefore, hafter.cons _, hgone,
        List.forall_mem_cons.mpr ⟨⟨_, rfl, hname, hvalue⟩, hadded⟩, hkept⟩
  | _, _, .leave hvalue hmembers =>
      obtain ⟨gone, kept, added, changed, hbefore, hafter, hgone, hadded, hkept⟩ := hmembers.parts
      exact ⟨_ :: gone, kept, added, changed, hbefore.cons _, hafter,
        List.forall_mem_cons.mpr ⟨⟨_, rfl, hvalue⟩, hgone⟩, hadded, hkept⟩
termination_by members.length + others.length

theorem Rearranges.parts {slot : Slot} {members others : List (Option String × Source)}
    (hvary : Rearranges slot members others) :
    ∃ gone kept added changed, members.Perm (gone ++ kept) ∧ others.Perm (added ++ changed) ∧
      (∀ member ∈ gone, IsLeft slot member) ∧ (∀ member ∈ added, IsAdded slot member) ∧
      List.Forall₂ (MemberVaries slot) kept changed := by
  obtain ⟨_, hmembers, horder⟩ := hvary
  obtain ⟨gone, kept, added, changed, hbefore, hafter, hparts⟩ := hmembers.parts
  exact ⟨gone, kept, added, changed, hbefore, horder.symm.trans hafter, hparts⟩

end ProviderForge

import ProviderForge.Document.Fault

/-!
Documents: value trees as a reader saw them, with the places where faults are reported. A
reader that met a fault keeps what it read before, because a value in front of the fault is
looked at first. Some faults matter only to those who use the value and not to those who skip
it.
-/

namespace ProviderForge

/-- How a document was read. Readers differ in what may stand for a record or a choice. -/
inductive Origin
  | text
  /-- A JSON value that was read before, with the members of an object in ascending order. -/
  | value
  | yaml
  /-- A copy kept until it is known what the value has to be. -/
  | copy
deriving DecidableEq, Repr

/-- The answers of a scalar to the different requests. -/
structure Scalar where
  found : Except Cause Found
  copied : Except Cause Atom
  string? : Option String
  flag? : Option Bool
  integer? : Option Int
  absence : Except Fault Bool
  /-- Why it does not stand for the value without content. -/
  unitFault? : Option Cause
  /-- Whether it also reads as a collection without items. -/
  isBlank : Bool
  tag? : Option String
deriving Repr

namespace Scalar

/-- A scalar that is one atom for every request. -/
def ofAtom (atom : Atom) : Scalar where
  found := .ok (.atom atom)
  copied := .ok atom
  string? := match atom with
    | .string value => some value
    | _ => none
  flag? := match atom with
    | .flag value => some value
    | _ => none
  integer? := match atom with
    | .integer value => some value
    | _ => none
  absence := match atom with
    | .absent _ => .ok true
    | _ => .ok false
  unitFault? := match atom with
    | .absent _ => none
    | _ => some (.invalidType (.atom atom) "unit")
  isBlank := false
  tag? := none

def mismatch (scalar : Scalar) (expected : String) : Cause :=
  match scalar.found with
  | .ok found => .invalidType found expected
  | .error cause => cause

end Scalar

structure Item (δ : Type) where
  value : δ
  /-- Where a fault of the item is put that has no location. -/
  location : Option Location
  /-- What those report who want no further item, when one may follow. -/
  surplus : Option Fault
deriving Repr

structure Entry (δ : Type) where
  key : δ
  value : δ
  afterKey : Option Location
  afterValue : Option Location
deriving Repr

inductive Ending
  | closed (location : Option Location)
  | broken (decoding skipping : Fault)
deriving Repr

def Ending.skipFault? : Ending → Option Fault
  | .closed _ => none
  | .broken _ skipping => some skipping

/-- Where the faults of the whole collection are put. -/
def Ending.check : Ending → Except Fault (Option Location)
  | .closed location => .ok location
  | .broken decoding _ => .error decoding

/-- What is wrong with a value, as it shows to those who want it for something. -/
structure Breakage where
  decoding : Fault
  /-- Nothing, if those who skip the value do not notice. -/
  skipping : Option Fault := some decoding
  /-- For those who read it as a choice. -/
  choosing : Fault := decoding
  /-- For those who first look whether it is absent, if that tells. -/
  absence : Option Fault := none
deriving DecidableEq, Repr

inductive Document
  | scalar (value : Scalar) (start after : Option Location)
  | sequence (tag : Option String) (items : List (Item Document)) (ending : Ending)
      (start : Option Location)
  | mapping (tag : Option String) (entries : List (Entry Document)) (ending : Ending)
      (start : Option Location)
  | unusable (breakage : Breakage)
  /-- A value that stands elsewhere, of at most this depth. Those who skip it do not look at
  it; a copy looks at no more than `limit` of them. -/
  | deferred (limit depth : Nat) (target : Unit → Document)

instance : Inhabited Document := ⟨.sequence none [] (.closed none) none⟩

namespace Document

/-- The value itself, wherever it stands. -/
def resolved : Document → Document
  | deferred _ _ target => (target ()).resolved
  | document => document

mutual
def skipFault? : Document → Option Fault
  | scalar _ _ _ => none
  | sequence _ items ending _ => (itemsSkipFault? items).or ending.skipFault?
  | mapping _ entries ending _ => (entriesSkipFault? entries).or ending.skipFault?
  | unusable breakage => breakage.skipping
  | deferred _ _ _ => none

def itemsSkipFault? : List (Item Document) → Option Fault
  | [] => none
  | ⟨value, _, _⟩ :: rest => value.skipFault?.or (itemsSkipFault? rest)

def entriesSkipFault? : List (Entry Document) → Option Fault
  | [] => none
  | ⟨key, value, _, _⟩ :: rest =>
      (key.skipFault?.or value.skipFault?).or (entriesSkipFault? rest)
end

mutual
def depth : Document → Nat
  | scalar _ _ _ => 0
  | sequence _ items _ _ => itemsDepth items + 1
  | mapping _ entries _ _ => entriesDepth entries + 1
  | unusable _ => 0
  | deferred _ depth _ => depth

def itemsDepth : List (Item Document) → Nat
  | [] => 0
  | ⟨value, _, _⟩ :: rest => max value.depth (itemsDepth rest)

def entriesDepth : List (Entry Document) → Nat
  | [] => 0
  | ⟨key, value, _, _⟩ :: rest => max (max key.depth value.depth) (entriesDepth rest)
end

def ofAtom (atom : Atom) : Document :=
  scalar (.ofAtom atom) none none

def checkTag (tag : Option String) : Except Fault Unit :=
  match tag with
  | some _ => .error (.ofCause .taggedValue)
  | none => .ok ()

/-- A step of copying, which knows how many deferred values were looked at. -/
abbrev Copying := StateT Nat (Except Fault)

namespace Copying

def located (location : Option Location) (copying : Copying α) : Copying α :=
  fun count => locate location (copying count)

def follow (limit : Nat) : Copying Unit := do
  let count ← get
  if count < limit then set (count + 1)
  else throw ⟨.malformed "repetition limit exceeded", some ⟨"", none⟩⟩

end Copying

mutual
def copy : Document → Copying Document
  | scalar value _ after =>
      match value.copied with
      | .ok atom => return ofAtom atom
      | .error cause => throw ⟨cause, after⟩
  | sequence tag items ending start =>
      Copying.located start do
        checkTag tag
        let items ← copyItems items
        let _ ← ending.check
        return sequence none items (.closed none) none
  | mapping tag entries ending start =>
      Copying.located start do
        checkTag tag
        let entries ← copyEntries entries
        let _ ← ending.check
        return mapping none entries (.closed none) none
  | unusable breakage => throw breakage.decoding
  | deferred limit _ target => do
      Copying.follow limit
      (target ()).copy

def copyItems : List (Item Document) → Copying (List (Item Document))
  | [] => return []
  | ⟨value, _, _⟩ :: rest => do
      let value ← value.copy
      let rest ← copyItems rest
      return ⟨value, none, none⟩ :: rest

def copyEntries : List (Entry Document) → Copying (List (Entry Document))
  | [] => return []
  | ⟨key, value, _, _⟩ :: rest => do
      let key ← key.copy
      let value ← value.copy
      let rest ← copyEntries rest
      return ⟨key, value, none, none⟩ :: rest
end

/-- A copy without locations, for which a scalar has to be one certain atom. -/
def copied (document : Document) : Except Fault Document :=
  document.copy.run' 0

def copiedItems (items : List (Item Document)) : Except Fault (List (Item Document)) :=
  (copyItems items).run' 0

def keyText (entry : Entry Document) : String :=
  match entry.key.resolved with
  | scalar value _ _ => value.string?.getD ""
  | _ => ""

/-- Of members with one key the last is kept, and the keys ascend. -/
def sortedEntries (entries : List (Entry Document)) : List (Entry Document) :=
  let kept := entries.foldr
    (fun entry kept => if kept.any (keyText · == keyText entry) then kept else entry :: kept) []
  kept.mergeSort fun left right => decide (keyText left ≤ keyText right)

mutual
def asValue : Document → Document
  | scalar value _ _ => scalar value none none
  | sequence tag items _ _ => sequence tag (itemsAsValue items) (.closed none) none
  | mapping tag entries _ _ =>
      mapping tag (sortedEntries (entriesAsValue entries)) (.closed none) none
  | unusable breakage => unusable breakage
  | deferred _ _ target => (target ()).asValue

def itemsAsValue : List (Item Document) → List (Item Document)
  | [] => []
  | ⟨value, _, _⟩ :: rest => ⟨value.asValue, none, none⟩ :: itemsAsValue rest

def entriesAsValue : List (Entry Document) → List (Entry Document)
  | [] => []
  | ⟨key, value, _, _⟩ :: rest =>
      ⟨key.asValue, value.asValue, none, none⟩ :: entriesAsValue rest
end

end Document

end ProviderForge

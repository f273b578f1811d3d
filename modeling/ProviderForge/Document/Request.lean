import ProviderForge.Document.Basic

/-!
Asking a document for a value of a certain kind. The first fault in the order of the document
wins; a record misses fields only after all its members have been looked at.
-/

namespace ProviderForge.Document

def mismatch (expected : String) : Document → Fault
  | scalar value _ after => ⟨value.mismatch expected, after⟩
  | sequence _ _ _ start => ⟨.invalidType .sequence expected, start⟩
  | mapping _ _ _ start => ⟨.invalidType .mapping expected, start⟩
  | unusable breakage => breakage.decoding
  | deferred _ _ target => (target ()).mismatch expected

def stringOf (expected : String) (document : Document) : Except Fault String :=
  match document.resolved with
  | scalar value _ _ =>
      match value.string? with
      | some text => .ok text
      | none => .error (document.mismatch expected)
  | _ => .error (document.mismatch expected)

def string : Document → Except Fault String :=
  stringOf "a string"

def flag (document : Document) : Except Fault Bool :=
  match document.resolved with
  | scalar value _ _ =>
      match value.flag? with
      | some flag => .ok flag
      | none => .error (document.mismatch "a boolean")
  | _ => .error (document.mismatch "a boolean")

def natural (bound : Nat) (expected : String) (document : Document) : Except Fault Nat :=
  match document.resolved with
  | scalar value _ after =>
      match value.integer? with
      | some integer =>
          if 0 ≤ integer ∧ integer < bound then .ok integer.toNat
          else .error ⟨.invalidValue (.atom (.integer integer)) expected, after⟩
      | none => .error (document.mismatch expected)
  | _ => .error (document.mismatch expected)

def unit (origin : Origin) (document : Document) : Except Fault Unit :=
  match document.resolved with
  | scalar value _ after =>
      match value.unitFault? with
      | none => .ok ()
      | some cause => .error ⟨cause, after⟩
  | mapping _ [] _ _ =>
      if origin = .copy then .ok () else .error (document.mismatch "unit")
  | _ => .error (document.mismatch "unit")

def optionally (document : Document) (decode : Document → Except Fault α) :
    Except Fault (Option α) :=
  match document.resolved with
  | scalar value _ _ => do
      if ← value.absence then return none else some <$> decode document
  | unusable breakage =>
      match breakage.absence with
      | some fault => .error fault
      | none => some <$> decode document
  | _ => some <$> decode document

def skip (document : Document) : Except Fault Unit :=
  match document.skipFault? with
  | some fault => .error fault
  | none => .ok ()

def listItems (decode : Document → Except Fault α) :
    List (Item Document) → Except Fault (List α)
  | [] => .ok []
  | item :: rest => do
      let first ← locate item.location (decode item.value)
      let others ← listItems decode rest
      return first :: others

def list (decode : Document → Except Fault α) (document : Document) :
    Except Fault (List α) :=
  match document.resolved with
  | sequence _ items ending _ => do
      let values ← listItems decode items
      let _ ← ending.check
      return values
  | scalar value _ _ =>
      if value.isBlank then .ok [] else .error (document.mismatch "a sequence")
  | _ => .error (document.mismatch "a sequence")

def strings : Document → Except Fault (List String) :=
  list string

def optionalString (document : Document) : Except Fault (Option String) :=
  document.optionally string

def optionalStrings (document : Document) : Except Fault (Option (List String)) :=
  document.optionally strings

def variant (known : List String) (name : String) : Except Fault String :=
  if known.contains name then .ok name
  else .error (.ofCause (.unknownVariant name known))

/-- In a copy a choice may be named by its position. -/
def variantAt (known : List String) (index : Int) : Except Fault String :=
  match known[index.toNat]? with
  | some name => .ok name
  | none =>
      .error (.ofCause (.invalidValue (.atom (.integer index))
        s!"variant index 0 <= i < {known.length}"))

def variantExpected : String :=
  "variant identifier"

def variantName (origin : Origin) (known : List String) (document : Document) :
    Except Fault String :=
  match document.resolved with
  | scalar value _ after =>
      match origin, value.string?, value.integer? with
      | _, some name, _ => locate after (variant known name)
      | .copy, none, some index =>
          if 0 ≤ index then variantAt known index
          else .error (document.mismatch variantExpected)
      | _, _, _ => .error (document.mismatch variantExpected)
  | _ => .error (document.mismatch variantExpected)

/-- The fault of a JSON text that has no choice at a location: its column is that of the
first character there. -/
def noChoice (start : Option Location) : Fault :=
  ⟨.malformed "expected value", start.map fun location =>
    { location with
      place := location.place.map fun place => { place with column := place.column + 1 } }⟩

def isText (value : Scalar) : Bool :=
  match value.found with
  | .ok (.atom (.string _)) => true
  | _ => false

def keyVariant (origin : Origin) (known : List String) (key : Document) :
    Except Fault String :=
  match key with
  | unusable breakage => .error breakage.choosing
  | _ => variantName origin known key

/-- The choice that the only member of a mapping names, if its value has no content. -/
def choiceByMember (origin : Origin) (known : List String) (entries : List (Entry Document))
    (ending : Ending) (start : Option Location) : Except Fault String :=
  match origin, entries with
  | .text, [] => do
      let location ← ending.check
      .error ⟨.malformed "expected value", location⟩
  | .text, entry :: rest => do
      let name ← keyVariant origin known entry.key
      unit origin entry.value
      match rest, ending with
      | [], .closed _ => .ok name
      | [], .broken ⟨.malformed "EOF while parsing an object", location⟩ _ =>
          .error ⟨.malformed "EOF while parsing an object", location⟩
      | _, _ => .error ⟨.malformed "expected value", entry.afterValue⟩
  | _, [entry] => do
      let name ← keyVariant origin known entry.key
      unit origin entry.value
      .ok name
  | _, _ => .error ⟨.invalidValue .mapping "map with a single key", start⟩

def choice (origin : Origin) (known : List String) (document : Document) :
    Except Fault String :=
  let taggedChoice (tag : Option String) (otherwise : Except Fault String) :=
    match tag with
    | some name => do
        let name ← variant known name
        unit origin document
        .ok name
    | none => otherwise
  match origin, document.resolved with
  | _, unusable breakage => .error breakage.choosing
  | _, deferred _ _ _ => .error (document.mismatch "string or map")
  | .yaml, scalar value _ after =>
      taggedChoice value.tag? (locate after (variant known (value.string?.getD "")))
  | .yaml, sequence tag _ _ _ =>
      taggedChoice tag (.error (document.mismatch "a YAML tag starting with '!'"))
  | .yaml, mapping tag _ _ _ =>
      taggedChoice tag (.error (document.mismatch "a YAML tag starting with '!'"))
  | .text, scalar value start after =>
      if isText value then locate after (variant known (value.string?.getD ""))
      else .error (noChoice start)
  | .text, sequence _ _ _ start => .error (noChoice start)
  | _, scalar value _ _ =>
      match value.string? with
      | some name => variant known name
      | none => .error (document.mismatch "string or map")
  | _, sequence _ _ _ _ => .error (document.mismatch "string or map")
  | _, mapping _ entries ending start => choiceByMember origin known entries ending start

/-- A field of a record. A required one has to be present. -/
structure Field where
  name : String
  isRequired : Bool
deriving DecidableEq, Repr

namespace Field

def required (name : String) : Field := ⟨name, true⟩

def defaulted (name : String) : Field := ⟨name, false⟩

end Field

/-- The fields of a record type in order of declaration. An open record keeps the members
that belong to none of its fields. -/
structure Shape where
  name : String
  fields : List Field
  isOpen : Bool := false
deriving DecidableEq, Repr

namespace Shape

def expected (shape : Shape) : String :=
  "struct " ++ shape.name

def names (shape : Shape) : List String :=
  shape.fields.map (·.name)

def counted (count : Nat) (noun : String) : String :=
  if count = 1 then s!"1 {noun}" else s!"{count} {noun}s"

def expectedLength (shape : Shape) : String :=
  shape.expected ++ " with " ++ counted shape.fields.length "element"

/-- The field of a name, or in a copy of a position. -/
def fieldOf? (shape : Shape) (origin : Origin) (key : Document) :
    Except Fault (Option String) :=
  match key.resolved with
  | scalar value _ _ =>
      match origin, value.string?, value.integer? with
      | _, some name, _ => .ok (if shape.names.contains name then some name else none)
      | .copy, none, some index =>
          if index < 0 then .error (key.mismatch "field identifier")
          else .ok (if shape.isOpen then none else shape.names[index.toNat]?)
      | _, _, _ => .error (key.mismatch "field identifier")
  | _ => .error (key.mismatch "field identifier")

end Shape

/-- How a record is read: `take` adds the value of a field to a draft, `pass` deals with any
other member, and `complete` makes the record of the draft. -/
structure Assembly (δ α : Type) where
  shape : Shape
  take : δ → String → Document → Except Fault δ
  pass : δ → Entry Document → Except Fault δ := fun draft entry => do
    entry.value.skip
    return draft
  complete : δ → Except Fault α

namespace Assembly

def takeEntries (assembly : Assembly δ α) (origin : Origin) :
    List (Entry Document) → List String → δ → Except Fault δ
  | [], _, draft => .ok draft
  | entry :: rest, seen, draft => do
      match ← assembly.shape.fieldOf? origin entry.key with
      | some name =>
          if seen.contains name then .error ⟨.duplicateField name, entry.afterKey⟩
          else
            let draft ← locate entry.afterValue (assembly.take draft name entry.value)
            assembly.takeEntries origin rest (name :: seen) draft
      | none =>
          let draft ← locate entry.afterValue (assembly.pass draft entry)
          assembly.takeEntries origin rest seen draft

/-- Takes the items of a sequence as the fields in order of declaration and returns the items
beyond; `position` counts the fields before. -/
def takeItems (assembly : Assembly δ α) (ending : Ending) :
    List Field → List (Item Document) → Nat → δ → Except Fault (δ × List (Item Document))
  | [], items, _, draft => .ok (draft, items)
  | field :: fields, item :: items, position, draft => do
      let draft ← locate item.location (assembly.take draft field.name item.value)
      assembly.takeItems ending fields items (position + 1) draft
  | field :: fields, [], position, draft => do
      let location ← ending.check
      if field.isRequired then
        .error ⟨.invalidLength position assembly.shape.expectedLength, location⟩
      else assembly.takeItems ending fields [] (position + 1) draft

def checkSurplus (shape : Shape) (origin : Origin) (items surplus : List (Item Document)) :
    Except Fault Unit :=
  let invalidLength (expected : String) : Except Fault Unit :=
    if surplus.isEmpty then .ok ()
    else .error (.ofCause (.invalidLength items.length expected))
  match origin with
  | .value => invalidLength "fewer elements in array"
  | .copy => invalidLength (Shape.counted shape.fields.length "element" ++ " in sequence")
  | .text | .yaml =>
      match items[shape.fields.length - 1]? with
      | some ⟨_, _, some fault⟩ => .error fault
      | _ => .ok ()

def read (assembly : Assembly δ α) (origin : Origin) (draft : δ) (document : Document) :
    Except Fault α :=
  let shape := assembly.shape
  match document.resolved with
  | mapping _ entries ending _ => do
      let draft ← assembly.takeEntries origin entries [] draft
      let location ← ending.check
      locate location (assembly.complete draft)
  | sequence _ items ending _ =>
      if origin = .yaml ∨ shape.isOpen then .error (document.mismatch shape.expected)
      else do
        let (draft, surplus) ← assembly.takeItems ending shape.fields items 0 draft
        checkSurplus shape origin items surplus
        assembly.complete draft
  | scalar value _ after =>
      if value.isBlank then locate after (assembly.complete draft)
      else .error (document.mismatch shape.expected)
  | unusable breakage => .error breakage.decoding
  | deferred _ _ _ => .error (document.mismatch shape.expected)

end Assembly

def present (name : String) : Option α → Except Fault α
  | some value => .ok value
  | none => .error (.ofCause (.missingField name))

/-- Splits the members of a mapping into the name of the choice and copies of the others. -/
def splitChoice (origin : Origin) (tagName : String) (known : List String) :
    List (Entry Document) → Option String →
      Except Fault (Option String × List (Entry Document))
  | [], chosen => .ok (chosen, [])
  | entry :: rest, chosen => do
      let key ← locate entry.afterKey entry.key.copied
      if keyText { entry with key := key } = tagName then
        if chosen.isSome then .error ⟨.duplicateField tagName, entry.afterKey⟩
        else
          let name ← locate entry.afterValue (variantName origin known entry.value)
          splitChoice origin tagName known rest (some name)
      else
        let value ← locate entry.afterValue entry.value.copied
        let (chosen, others) ← splitChoice origin tagName known rest chosen
        return (chosen, ⟨key, value, none, none⟩ :: others)

/-- The name of a choice and a copy of what belongs to it. A sequence starts with the name. -/
def taggedChoice (origin : Origin) (typeName tagName : String) (known : List String)
    (document : Document) : Except Fault (String × Document) :=
  let expected := "internally tagged enum " ++ typeName
  let refuseTag (tag : Option String) (location : Option Location) : Except Fault Unit :=
    if tag.isSome then .error ⟨.invalidType .choice expected, location⟩ else .ok ()
  match document.resolved with
  | mapping tag entries ending start => do
      refuseTag tag start
      let (chosen, others) ← splitChoice origin tagName known entries none
      let location ← ending.check
      let name ← locate location (present tagName chosen)
      return (name, mapping none others (.closed none) none)
  | sequence tag items ending start => do
      refuseTag tag start
      match items with
      | [] => do
          let location ← ending.check
          .error ⟨.missingField tagName, location⟩
      | item :: rest => do
          let name ← locate item.location (variantName origin known item.value)
          let others ← copiedItems rest
          let _ ← ending.check
          return (name, sequence none others (.closed none) none)
  | scalar value _ after => do
      refuseTag value.tag? after
      .error (document.mismatch expected)
  | unusable breakage => .error breakage.decoding
  | deferred _ _ _ => .error (document.mismatch expected)

/-- A choice without fields of its own: members are passed over, items are refused. -/
def checkPlainChoice : Document → Except Fault Unit
  | sequence _ (_ :: rest) _ _ =>
      .error (.ofCause (.invalidLength (rest.length + 1) "0 elements in sequence"))
  | _ => .ok ()

end ProviderForge.Document

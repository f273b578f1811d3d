import ProviderForge.Token.Quoted

namespace ProviderForge

structure Place where
  line : Nat
  column : Nat
deriving DecidableEq, Repr

/-- Where a value lies: its path within the document, and its place in the text. The root has
no path, and some places are not shown. -/
structure Location where
  path : String := ""
  place : Option Place
deriving DecidableEq, Repr

/-- A value without parts. Absence has one word in each format. -/
inductive Atom
  | absent (word : String)
  | flag (value : Bool)
  | integer (value : Int)
  | floating (text : String)
  | string (value : String)
deriving DecidableEq, Repr

inductive Found
  | atom (value : Atom)
  /-- An integer beyond 64 bits, with the name of the type that holds it. -/
  | wide (value : Int) (typeName : String)
  | sequence
  | mapping
  | choice
deriving DecidableEq, Repr

def Atom.description : Atom → String
  | .absent word => word
  | .flag value => s!"boolean `{value}`"
  | .integer value => s!"integer `{value}`"
  | .floating text => s!"floating point `{text}`"
  | .string value => "string " ++ Quoted.shown value

def Found.description : Found → String
  | .atom value => value.description
  | .wide value typeName => s!"integer `{value}` as {typeName}"
  | .sequence => "sequence"
  | .mapping => "map"
  | .choice => "enum"

inductive Cause
  | invalidType (found : Found) (expected : String)
  | invalidValue (found : Found) (expected : String)
  | invalidLength (length : Nat) (expected : String)
  | unknownVariant (name : String) (known : List String)
  | missingField (name : String)
  | duplicateField (name : String)
  | taggedValue
  | malformed (explanation : String)
deriving DecidableEq, Repr

def ticked (name : String) : String :=
  s!"`{name}`"

def alternatives : List String → String
  | [] => "there are no variants"
  | [only] => s!"expected {ticked only}"
  | [first, second] => s!"expected {ticked first} or {ticked second}"
  | names => "expected one of " ++ String.intercalate ", " (names.map ticked)

def Cause.message : Cause → String
  | .invalidType found expected => s!"invalid type: {found.description}, expected {expected}"
  | .invalidValue found expected => s!"invalid value: {found.description}, expected {expected}"
  | .invalidLength length expected => s!"invalid length {length}, expected {expected}"
  | .unknownVariant name known => s!"unknown variant {ticked name}, {alternatives known}"
  | .missingField name => s!"missing field {ticked name}"
  | .duplicateField name => s!"duplicate field {ticked name}"
  | .taggedValue => "untagged and internally tagged enums do not support enum input"
  | .malformed explanation => explanation

/-- A fault without a location takes that of the nearest value around it. -/
structure Fault where
  cause : Cause
  location : Option Location := none
deriving DecidableEq, Repr

namespace Fault

def ofCause (cause : Cause) : Fault := ⟨cause, none⟩

def within (location : Option Location) (fault : Fault) : Fault :=
  match fault.location with
  | some _ => fault
  | none => { fault with location := location }

@[simp] theorem cause_within (location : Option Location) (fault : Fault) :
    (fault.within location).cause = fault.cause := by
  cases fault with
  | mk cause inner => cases inner <;> rfl

def message (fault : Fault) : String :=
  match fault.location with
  | none => fault.cause.message
  | some location =>
      (if location.path.isEmpty then "" else location.path ++ ": ") ++ fault.cause.message ++
        match location.place with
        | none => ""
        | some place => s!" at line {place.line} column {place.column}"

end Fault

def locate (location : Option Location) (result : Except Fault α) : Except Fault α :=
  result.mapError (Fault.within location)

@[simp] theorem locate_ok (location : Option Location) (value : α) :
    locate location (.ok value) = .ok value := rfl

end ProviderForge

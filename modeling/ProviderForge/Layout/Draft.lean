/-!
Drafts: text with the places where a line may end, before the lines are chosen. A group that
does not fit on its line ends the line at all of its breaks, or only at those it has to.
-/

namespace ProviderForge.Layout

inductive Breaking
  | consistent
  | inconsistent
deriving DecidableEq, Repr, Inhabited

/-- A place where a line may end; otherwise it is `blank` spaces wide. -/
structure Break where
  /-- How far the next line is moved against its group. -/
  offset : Int := 0
  blank : Nat := 0
  atLineEnd : Option Char := none
  atLineStart : String := ""
  unbroken : Option Char := none
  /-- Whether the break goes when nothing follows it in its group. -/
  vanishes : Bool := false
  neverBreaks : Bool := false
deriving DecidableEq, Repr, Inhabited

/-- `filler` is invisible and wider than any line. -/
inductive Piece
  | text (value : String)
  | filler
  | possible (spot : Break)
  | start (breaking : Breaking) (offset : Int)
  | finish
deriving DecidableEq, Repr, Inhabited

/-- The pieces so far, the latest one first. -/
abbrev Draft := List Piece

def Drawing := Draft → Draft

namespace Drawing

def empty : Drawing := id

instance : Inhabited Drawing := ⟨empty⟩

instance : Append Drawing := ⟨fun first second draft => second (first draft)⟩

def only (condition : Bool) (drawing : Drawing) : Drawing :=
  if condition then drawing else empty

def all : List Drawing → Drawing
  | [] => empty
  | first :: rest => first ++ all rest

def separated (separator : Drawing) : List Drawing → Drawing
  | [] => empty
  | [last] => last
  | first :: rest => first ++ separator ++ separated separator rest

/-- The drawings, each followed by an ending that knows whether it is the last one. -/
def ended (ending : Bool → Drawing) : List Drawing → Drawing
  | [] => empty
  | first :: rest => first ++ ending rest.isEmpty ++ ended ending rest

def optional (drawing : Option Drawing) : Drawing :=
  drawing.getD empty

end Drawing

def indent : Int := 4

def infinity : Nat := 0xffff

def word (text : String) : Drawing :=
  fun draft => .text text :: draft

def letter (character : Char) : Drawing :=
  word (String.singleton character)

def possible (spot : Break) : Drawing :=
  fun draft => .possible spot :: draft

def blank : Drawing := word " "

def zeroBreak : Drawing := possible { }

def space : Drawing := possible { blank := 1 }

def hardBreak : Drawing := possible { blank := infinity }

def spaceIfNonempty : Drawing := possible { blank := 1, vanishes := true }

def hardBreakIfNonempty : Drawing := possible { blank := infinity, vanishes := true }

def neverBreak : Drawing := possible { neverBreaks := true }

def consistent (offset : Int) : Drawing :=
  fun draft => .start .consistent offset :: draft

def inconsistent (offset : Int) : Drawing :=
  fun draft => .start .inconsistent offset :: draft

/-- Closes the innermost group. A group of one break is nothing, and a break that nothing
follows may vanish. -/
def finish : Drawing
  | .possible _ :: .start _ _ :: draft => draft
  | .possible spot :: draft =>
      if spot.vanishes then .finish :: draft else .finish :: .possible spot :: draft
  | draft => .finish :: draft

def shift (offset : Int) : Drawing
  | .possible spot :: draft => .possible { spot with offset := spot.offset + offset } :: draft
  | draft => draft

def outdent : Drawing := shift (-indent)

def boxed (offset : Int) (inner : Drawing) : Drawing :=
  consistent offset ++ inner ++ finish

def packed (offset : Int) (inner : Drawing) : Drawing :=
  inconsistent offset ++ inner ++ finish

/-- Between elements a comma and a space; a comma behind the last one only if the line ends. -/
def comma (isLast : Bool) : Drawing :=
  if isLast then possible { atLineEnd := some ',' } else word "," ++ space

def commaOrSpace (isLast : Bool) : Drawing :=
  if isLast then possible { blank := 1, atLineEnd := some ',' } else word "," ++ space

def Piece.width : Piece → Nat
  | .text value => value.utf8ByteSize
  | .filler => infinity
  | .possible spot => spot.blank
  | _ => 0

def openWidth (depth width : Nat) : Draft → Nat
  | [] => width
  | .finish :: draft => openWidth (depth + 1) width draft
  | .start _ _ :: draft =>
      match depth with
      | 0 => width
      | depth + 1 => openWidth depth width draft
  | piece :: draft => openWidth depth (width + piece.width) draft

/-- Closes the innermost group, which is broken if it is wider than `limit`. -/
def finishWithin (limit : Nat) : Drawing
  | draft =>
      if openWidth 0 0 draft > limit then finish (.filler :: draft) else finish draft

end ProviderForge.Layout

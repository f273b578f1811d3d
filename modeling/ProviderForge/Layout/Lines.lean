import ProviderForge.Layout.Draft

/-!
The choice of lines. Each break and each group is measured up to the next place where a line
could end instead, and breaks where it does not fit into what is left of its line.
-/

namespace ProviderForge.Layout

def lineWidth : Int := 89

/-- The room that a line has however far it is indented. -/
def leastRoom : Int := 60

/-- Puts each piece before the measured ones behind it. `total` is the width of all those;
`marks` holds, for each group that is open at this place, the width from the next break on
that ends its last stretch, the innermost group first. -/
def measure (total : Nat) (marks : List Nat) (measured : List (Piece × Nat)) :
    Draft → List (Piece × Nat)
  | [] => measured
  | piece :: draft =>
      let total := total + piece.width
      let next := marks.headD 0
      match piece with
      | .finish => measure total (next :: marks) ((piece, 0) :: measured) draft
      | .start _ _ =>
          let marks := marks.tail
          measure total marks ((piece, total - marks.headD 0) :: measured) draft
      | .possible _ =>
          measure total (total :: marks.tail) ((piece, total - next) :: measured) draft
      | _ => measure total marks ((piece, 0) :: measured) draft

/-- How an open group is written; a broken one remembers the indentation around it. -/
inductive Frame
  | fits
  | broken (indentation : Int) (breaking : Breaking)
deriving DecidableEq, Repr, Inhabited

structure Page where
  text : String := ""
  room : Int := lineWidth
  indentation : Int := 0
  /-- Spaces that are written only before the next text of the line. -/
  pending : Nat := 0
  frames : List Frame := []
deriving Repr, Inhabited

namespace Page

def spaces (count : Nat) : String :=
  "".pushn ' ' count

def write (page : Page) (text : String) : Page :=
  { page with
    text := page.text ++ spaces page.pending ++ text
    pending := 0
    room := page.room - text.utf8ByteSize }

def isUnbroken (page : Page) (spot : Break) (size : Nat) : Bool :=
  spot.neverBreaks ||
    match page.frames with
    | .fits :: _ => true
    | .broken _ .consistent :: _ => false
    | _ => decide ((size : Int) ≤ page.room)

def writeUnbroken (page : Page) (spot : Break) : Page :=
  let page := { page with
    pending := page.pending + spot.blank
    room := page.room - spot.blank }
  match spot.unbroken with
  | some character =>
      { page with text := page.text.push character, room := page.room - 1 }
  | none => page

def endLine (page : Page) (spot : Break) : Page :=
  let page := match spot.atLineEnd with
    | some character => page.write (String.singleton character)
    | none => page
  let column := page.indentation + spot.offset
  let page := { page with
    text := page.text.push '\n'
    pending := column.toNat
    room := max (lineWidth - column) leastRoom }
  if spot.atLineStart.isEmpty then page else page.write spot.atLineStart

def add (page : Page) : Piece × Nat → Page
  | (.text value, _) => page.write value
  | (.filler, _) => page
  | (.possible spot, size) =>
      if page.isUnbroken spot size then page.writeUnbroken spot else page.endLine spot
  | (.start breaking offset, size) =>
      if (size : Int) > page.room then
        { page with
          indentation := page.indentation + offset
          frames := .broken page.indentation breaking :: page.frames }
      else { page with frames := .fits :: page.frames }
  | (.finish, _) =>
      match page.frames with
      | .broken indentation _ :: frames =>
          { page with indentation := indentation, frames := frames }
      | _ :: frames => { page with frames := frames }
      | [] => page

end Page

def Drawing.text (drawing : Drawing) : String :=
  ((measure 0 [] [] (drawing [])).foldl Page.add { }).text

end ProviderForge.Layout

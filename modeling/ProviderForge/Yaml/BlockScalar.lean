import ProviderForge.Yaml.Token

namespace ProviderForge.Yaml.BlockScalar

inductive Chomping
  | strip
  | clip
  | keep
deriving DecidableEq, Repr

structure Header where
  chomping : Chomping := .clip
  increment : Option Nat := none
deriving Repr

def chomping? : List Char → Option Chomping
  | '+' :: _ => some .keep
  | '-' :: _ => some .strip
  | _ => none

def increment (start : Mark) (cursor : Cursor) :
    Except SyntaxFault (Option Nat × Cursor) :=
  match cursor.rest with
  | [] => .ok (none, cursor)
  | digit :: _ =>
      if !digit.isDigit then .ok (none, cursor)
      else if digit = '0' then cursor.fail .blockScalar start .zeroIndentation
      else .ok (some (digit.toNat - 48), cursor.skip)

def indicators (start : Mark) (cursor : Cursor) : Except SyntaxFault (Header × Cursor) :=
  match chomping? cursor.rest with
  | some chomping => do
      let (increment, after) ← increment start cursor.skip
      return (⟨chomping, increment⟩, after)
  | none => do
      let (increment, after) ← increment start cursor
      match increment, chomping? after.rest with
      | some _, some chomping => return (⟨chomping, increment⟩, after.skip)
      | _, _ => return (⟨.clip, increment⟩, after)

def header (start : Mark) (cursor : Cursor) : Except SyntaxFault (Header × Cursor) := do
  let (header, after) ← indicators start cursor
  let after := (after.skipWhile isBlank).skipComment
  if atBreak after.rest then return (header, after.skipBreak)
  else after.fail .blockScalar start .noCommentOrBreak

def skipIndentation (limit : Option Nat) (cursor : Cursor) : Cursor :=
  let spaces := (cursor.takeWhile (· == ' ')).1.length
  cursor.skipMany (match limit with
    | none => spaces
    | some limit => min spaces (limit - cursor.column))

/-- Empty lines and the indentation of the line behind them. `widest` is the greatest column
that the spaces reach. -/
structure Breaks where
  text : List Char := []
  widest : Nat := 0
  after : Cursor

def breaks (fuel : Nat) (indentation : Option Nat) (start : Mark) (found : Breaks) :
    Except SyntaxFault Breaks :=
  let after := skipIndentation indentation found.after
  let found := { found with after, widest := max found.widest after.column }
  match fuel with
  | 0 => .ok found
  | fuel + 1 =>
      if startsWith '\t' after.rest && indentation.all (after.column < ·) then
        after.fail .blockScalar start .tabForIndentation
      else if after.rest.head?.any isBreak then
        let (text, next) := after.takeBreak
        breaks fuel indentation start
          { found with text := found.text ++ text, after := next }
      else .ok found

def breaksAt (indentation : Option Nat) (start : Mark) (cursor : Cursor) :
    Except SyntaxFault Breaks :=
  breaks (cursor.rest.length + 1) indentation start { after := cursor }

/-- The line break before a line and the empty lines after it. -/
structure Seam where
  first : List Char := []
  others : List Char := []
  isAfterBlank : Bool := false

def Seam.text (seam : Seam) (isLiteral isBeforeBlank : Bool) : List Char :=
  if !isLiteral && seam.first.head? == some '\n' && !seam.isAfterBlank && !isBeforeBlank then
    (if seam.others.isEmpty then [' '] else []) ++ seam.others
  else seam.first ++ seam.others

/-- The lines at an indentation. The last seam is left for chomping. -/
def content (fuel : Nat) (isLiteral : Bool) (indentation : Nat) (start : Mark) (seam : Seam)
    (cursor : Cursor) : Except SyntaxFault (List Char × Seam × Cursor) :=
  match fuel with
  | 0 => .ok ([], seam, cursor)
  | fuel + 1 =>
      if cursor.column ≠ indentation ∨ cursor.rest.isEmpty then .ok ([], seam, cursor)
      else do
        let startsBlank := cursor.rest.head?.any isBlank
        let lead := seam.text isLiteral startsBlank
        let (line, after) := cursor.takeWhile (!isBreak ·)
        let (first, after) := after.takeBreak
        let found ← breaksAt (some indentation) start after
        let (rest, last, after) ←
          content fuel isLiteral indentation start ⟨first, found.text, startsBlank⟩ found.after
        return (lead ++ line ++ rest, last, after)

def Chomping.tail (chomping : Chomping) (seam : Seam) : List Char :=
  match chomping with
  | .strip => []
  | .clip => seam.first
  | .keep => seam.first ++ seam.others

/-- A block scalar at its indicator. Its content stands at the margin or further right. -/
def read (isLiteral : Bool) (margin : Nat) (cursor : Cursor) :
    Except SyntaxFault (String × Cursor) := do
  let start := cursor.mark
  let (header, after) ← header start cursor.skip
  let declared := header.increment.map fun increment =>
    if margin = 0 then increment else margin - 1 + increment
  let found ← breaksAt declared start after
  let indentation := declared.getD (max 1 (max found.widest margin))
  let (text, last, after) ←
    content (found.after.rest.length + 1) isLiteral indentation start ⟨[], found.text, false⟩
      found.after
  return (String.ofList (text ++ header.chomping.tail last), after)

end ProviderForge.Yaml.BlockScalar

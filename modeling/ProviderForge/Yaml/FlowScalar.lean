import ProviderForge.Text.Character
import ProviderForge.Yaml.Token

namespace ProviderForge.Yaml.FlowScalar

open Text

/-- White space between two parts of a scalar. -/
structure Gap where
  blanks : List Char := []
  breaks : Option (List Char × List Char) := none

namespace Gap

def spansLines (gap : Gap) : Bool :=
  gap.breaks.isSome

def text (gap : Gap) : List Char :=
  match gap.breaks with
  | none => gap.blanks
  | some (first, others) =>
      if first.head? = some '\n' then
        if others.isEmpty then [' '] else others
      else first ++ others

def takeBreak (gap : Gap) (cursor : Cursor) : Gap × Cursor :=
  let (found, after) := cursor.takeBreak
  match gap.breaks with
  | none => (⟨[], some (found, [])⟩, after)
  | some (first, others) => (⟨[], some (first, others ++ found)⟩, after)

end Gap

/-- The white space ahead. `check` may refuse a blank. -/
def gap (fuel : Nat) (check : Gap → Cursor → Except SyntaxFault Unit) (found : Gap)
    (cursor : Cursor) : Except SyntaxFault (Gap × Cursor) :=
  match fuel with
  | 0 => .ok (found, cursor)
  | fuel + 1 =>
      match cursor.rest with
      | [] => .ok (found, cursor)
      | character :: _ =>
          if isBlank character then do
            check found cursor
            let found :=
              if found.spansLines then found
              else { found with blanks := found.blanks ++ [character] }
            gap fuel check found cursor.skip
          else if isBreak character then
            let (found, after) := found.takeBreak cursor
            gap fuel check found after
          else .ok (found, cursor)

inductive Quotes
  | single
  | double
deriving DecidableEq, Repr

namespace Quotes

def sign : Quotes → Char
  | single => '\''
  | double => '"'

def style : Quotes → Style
  | single => .singleQuoted
  | double => .doubleQuoted

end Quotes

def simpleEscape? : Char → Option Char
  | '0' => some (Char.ofNat 0)
  | 'a' => some (Char.ofNat 7)
  | 'b' => some (Char.ofNat 8)
  | 't' | '\t' => some '\t'
  | 'n' => some '\n'
  | 'v' => some (Char.ofNat 11)
  | 'f' => some (Char.ofNat 12)
  | 'r' => some '\r'
  | 'e' => some (Char.ofNat 27)
  | ' ' => some ' '
  | '"' => some '"'
  | '/' => some '/'
  | '\\' => some '\\'
  | 'N' => some nextLine
  | '_' => some (Char.ofNat 0xA0)
  | 'L' => some lineSeparator
  | 'P' => some paragraphSeparator
  | _ => none

def escapeWidth? : Char → Option Nat
  | 'x' => some 2
  | 'u' => some 4
  | 'U' => some 8
  | _ => none

def numericEscape (start : Mark) (width : Nat) (cursor : Cursor) :
    Except SyntaxFault (Char × Cursor) :=
  match (cursor.rest.take width).mapM hexValue? with
  | none => cursor.fail .escape start .noHexadecimal
  | some digits =>
      if digits.length < width then cursor.fail .escape start .noHexadecimal
      else
        let value := digits.foldl (fun value digit => value * 16 + digit) 0
        if value.isValidChar then .ok (Char.ofNat value, cursor.skipMany width)
        else cursor.fail .escape start .badCharacterCode

def escape (start : Mark) (cursor : Cursor) : Except SyntaxFault (Char × Cursor) :=
  match cursor.rest with
  | _ :: letter :: _ =>
      match simpleEscape? letter, escapeWidth? letter with
      | some value, _ => .ok (value, cursor.skipMany 2)
      | none, some width => numericEscape start width (cursor.skipMany 2)
      | none, none => cursor.fail .escape start .unknownEscape
  | _ => cursor.fail .escape start .unknownEscape

def withCharacter (character : Char) (part : Except SyntaxFault (List Char × Gap × Cursor)) :
    Except SyntaxFault (List Char × Gap × Cursor) := do
  let (rest, gap, after) ← part
  return (character :: rest, gap, after)

/-- Characters of a quoted scalar up to white space or the closing quote. An escaped line
break also ends them, and is a gap without text. -/
def quotedPart (fuel : Nat) (quotes : Quotes) (start : Mark) (cursor : Cursor) :
    Except SyntaxFault (List Char × Gap × Cursor) :=
  match fuel with
  | 0 => .ok ([], {}, cursor)
  | fuel + 1 =>
      match quotes, cursor.rest with
      | _, [] => .ok ([], {}, cursor)
      | .single, '\'' :: '\'' :: _ =>
          withCharacter '\'' (quotedPart fuel quotes start (cursor.skipMany 2))
      | .double, '\\' :: following =>
          if following.head?.any isBreak then
            .ok ([], ⟨[], some ([], [])⟩, cursor.skip.skipBreak)
          else do
            let (character, after) ← escape start cursor
            withCharacter character (quotedPart fuel quotes start after)
      | _, character :: _ =>
          if character = quotes.sign ∨ isBlank character ∨ isBreak character then
            .ok ([], {}, cursor)
          else withCharacter character (quotedPart fuel quotes start cursor.skip)

def quotedTail (fuel : Nat) (quotes : Quotes) (start : Mark) (cursor : Cursor) :
    Except SyntaxFault (List Char × Cursor) :=
  match fuel with
  | 0 => cursor.fail .quotedScalar start .endOfStream
  | fuel + 1 =>
      if cursor.isAtDocumentIndicator then
        cursor.fail .quotedScalar start .documentIndicator
      else if cursor.rest.isEmpty then cursor.fail .quotedScalar start .endOfStream
      else do
        let (part, found, after) ← quotedPart (cursor.rest.length + 1) quotes start cursor
        if startsWith quotes.sign after.rest then return (part, after.skip)
        else
          let (found, after) ←
            gap (after.rest.length + 1) (fun _ _ => .ok ()) found after
          let (rest, after) ← quotedTail fuel quotes start after
          return (part ++ found.text ++ rest, after)

def quoted (quotes : Quotes) (cursor : Cursor) : Except SyntaxFault (String × Cursor) := do
  let (text, after) ←
    quotedTail (2 * cursor.rest.length + 2) quotes cursor.mark cursor.skip
  return (String.ofList text, after)

def isFlowIndicator (character : Char) : Bool :=
  ",[]\x7b\x7d".toList.contains character

/-- Characters of a plain scalar up to white space or an indicator. -/
def plainPart (isInFlow : Bool) (start : Mark) (cursor : Cursor) :
    List Char → Except SyntaxFault (List Char × Cursor)
  | [] => .ok ([], cursor)
  | character :: rest =>
      if isBlank character || isBreak character then .ok ([], cursor)
      else if isInFlow && character == ':' &&
          rest.head?.any (fun next => isFlowIndicator next || next == '?') then
        cursor.fail .plainScalar start .unexpectedColon
      else if (character == ':' && atSpace rest) || (isInFlow && isFlowIndicator character) then
        .ok ([], cursor)
      else do
        let (found, after) ← plainPart isInFlow start cursor.skip rest
        return (character :: found, after)

/-- What was read of a plain scalar, and whether the text behind it starts on a later line. -/
structure Plain where
  text : List Char
  after : Cursor
  endsLine : Bool

/-- The rest of a plain scalar behind a gap. In a block its lines start no further left than
the margin. -/
def plainTail (fuel : Nat) (isInFlow : Bool) (margin : Nat) (start : Mark) (pending : Gap)
    (cursor : Cursor) : Except SyntaxFault Plain :=
  let ended : Plain := ⟨[], cursor, pending.spansLines⟩
  match fuel with
  | 0 => .ok ended
  | fuel + 1 =>
      if cursor.isAtDocumentIndicator || startsWith '#' cursor.rest then .ok ended
      else do
        let (part, after) ← plainPart isInFlow start cursor cursor.rest
        let (pending, lead) :=
          if part.isEmpty then (pending, []) else (({} : Gap), pending.text ++ part)
        if !(after.rest.head?.any fun next => isBlank next || isBreak next) then
          return ⟨lead, after, pending.spansLines⟩
        else
          let checkTab (found : Gap) (cursor : Cursor) : Except SyntaxFault Unit :=
            if found.spansLines && cursor.column < margin && startsWith '\t' cursor.rest then
              cursor.fail .plainScalar start .tabInIndentation
            else .ok ()
          let (found, after) ← gap (after.rest.length + 1) checkTab pending after
          if !isInFlow && after.column < margin then
            return ⟨lead, after, found.spansLines⟩
          else
            let tail ← plainTail fuel isInFlow margin start found after
            return { tail with text := lead ++ tail.text }

def plain (isInFlow : Bool) (margin : Nat) (cursor : Cursor) : Except SyntaxFault Plain :=
  plainTail (cursor.rest.length + 1) isInFlow margin cursor.mark {} cursor

end ProviderForge.Yaml.FlowScalar

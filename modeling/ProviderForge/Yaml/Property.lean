import ProviderForge.Text.Character
import ProviderForge.Yaml.Token

namespace ProviderForge.Yaml.Property

open Text

def endsName (text : List Char) : Bool :=
  atSpace text || text.head?.any ("?:,]\x7d%@\x60".toList.contains ·)

def name (activity : Activity) (cursor : Cursor) : Except SyntaxFault (String × Cursor) :=
  let (found, after) := cursor.skip.takeWhile isWord
  if !found.isEmpty && endsName after.rest then return (String.ofList found, after)
  else after.fail activity cursor.mark .noAlphanumeric

/-- An octet that is written as a percent sign and two digits. -/
def octet? : List Char → Option Nat
  | '%' :: high :: low :: _ => do return (← hexValue? high) * 16 + (← hexValue? low)
  | _ => none

def sequenceLength? (octet : Nat) : Option Nat :=
  if octet < 0x80 then some 1
  else if 0xC0 ≤ octet ∧ octet < 0xE0 then some 2
  else if 0xE0 ≤ octet ∧ octet < 0xF0 then some 3
  else if 0xF0 ≤ octet ∧ octet < 0xF8 then some 4
  else none

def trailingOctets (activity : Activity) (start : Mark) (cursor : Cursor) :
    Nat → Except SyntaxFault (Octets × Cursor)
  | 0 => .ok ([], cursor)
  | count + 1 =>
      match octet? cursor.rest with
      | none => cursor.fail activity start .noEscapedOctet
      | some octet =>
          if 0x80 ≤ octet ∧ octet < 0xC0 then do
            let (rest, after) ← trailingOctets activity start (cursor.skipMany 3) count
            return (octet.toUInt8 :: rest, after)
          else cursor.fail activity start .badTrailingOctet

/-- A sequence of octets. It has the length of a character but need not be one. -/
def escapedOctets (activity : Activity) (start : Mark) (cursor : Cursor) :
    Except SyntaxFault (Octets × Cursor) :=
  match octet? cursor.rest with
  | none => cursor.fail activity start .noEscapedOctet
  | some octet =>
      match sequenceLength? octet with
      | none => cursor.fail activity start .badLeadingOctet
      | some length => do
          let (rest, after) ← trailingOctets activity start (cursor.skipMany 3) (length - 1)
          return (octet.toUInt8 :: rest, after)

/-- Between angle brackets a tag may hold flow indicators. -/
def isTagCharacter (isVerbatim : Bool) (character : Char) : Bool :=
  isWord character || ";/?:@&=+$.%!~*'()".toList.contains character ||
    (isVerbatim && ",[]".toList.contains character)

def tagOctets (fuel : Nat) (activity : Activity) (isVerbatim : Bool) (start : Mark)
    (cursor : Cursor) : Except SyntaxFault (Octets × Cursor) :=
  match fuel with
  | 0 => .ok ([], cursor)
  | fuel + 1 =>
      match cursor.rest with
      | [] => .ok ([], cursor)
      | character :: _ =>
          if !isTagCharacter isVerbatim character then .ok ([], cursor)
          else do
            let (octets, after) ←
              if character = '%' then escapedOctets activity start cursor
              else .ok (String.utf8EncodeChar character, cursor.skip)
            let (rest, after) ← tagOctets fuel activity isVerbatim start after
            return (octets ++ rest, after)

/-- The rest of a tag, of which `head` has been read, without its exclamation mark. It ends
before an octet that is zero. -/
def tagText (activity : Activity) (isVerbatim : Bool) (head : List Char) (start : Mark)
    (cursor : Cursor) : Except SyntaxFault (Octets × Cursor) := do
  let (found, after) ← tagOctets (cursor.rest.length + 1) activity isVerbatim start cursor
  if head.isEmpty && found.isEmpty then after.fail activity start .noTagText
  else
    let octets := (head.drop 1).flatMap String.utf8EncodeChar ++ found
    return (octets.takeWhile (· != 0), after)

/-- Characters that are a handle or the start of a tag without one. -/
def tagHandle (isDirective : Bool) (start : Mark) (cursor : Cursor) :
    Except SyntaxFault (List Char × Cursor) :=
  if !startsWith '!' cursor.rest then
    cursor.fail (if isDirective then .handleOfDirective else .tag) start .noExclamation
  else
    let (found, after) := cursor.skip.takeWhile isWord
    if startsWith '!' after.rest then .ok ('!' :: found ++ ['!'], after.skip)
    else if isDirective && !found.isEmpty then after.fail .endOfHandle start .noExclamation
    else .ok ('!' :: found, after)

def isHandle (characters : List Char) : Bool :=
  1 < characters.length && characters.getLast? == some '!'

/-- A tag of either form. The lone exclamation mark has no handle. -/
def tagName (start : Mark) (cursor : Cursor) : Except SyntaxFault (TagName × Cursor) :=
  match cursor.rest with
  | '!' :: '<' :: _ => do
      let (text, after) ← tagText .partOfTag true [] start (cursor.skipMany 2)
      if startsWith '>' after.rest then return (⟨"", text⟩, after.skip)
      else after.fail .tag start .noTagEnd
  | _ => do
      let (head, after) ← tagHandle false start cursor
      if isHandle head then
        let (suffix, after) ← tagText .partOfTag false [] start after
        return (⟨String.ofList head, suffix⟩, after)
      else
        let (suffix, after) ← tagText .partOfTag false head start after
        return (if suffix.isEmpty then ⟨"", Octets.ofString "!"⟩ else ⟨"!", suffix⟩, after)

def tag (isInFlow : Bool) (cursor : Cursor) : Except SyntaxFault (TagName × Cursor) := do
  let (name, after) ← tagName cursor.mark cursor
  if (isInFlow && startsWith ',' after.rest) || atSpace after.rest then return (name, after)
  else after.fail .tag cursor.mark .noWhitespaceOrBreak

def longestVersion : Nat := 9

def versionNumber (start : Mark) (cursor : Cursor) : Except SyntaxFault (Nat × Cursor) :=
  let (digits, after) := cursor.takeWhile Char.isDigit
  if digits.isEmpty then cursor.fail .versionDirective start .noVersion
  else if longestVersion < digits.length then
    (cursor.skipMany longestVersion).fail .versionDirective start .longVersion
  else .ok (digits.foldl (fun value digit => value * 10 + (digit.toNat - 48)) 0, after)

def version (start : Mark) (cursor : Cursor) :
    Except SyntaxFault (Token.Kind × Cursor) := do
  let (major, after) ← versionNumber start (cursor.skipWhile isBlank)
  if startsWith '.' after.rest then
    let (minor, after) ← versionNumber start after.skip
    return (.versionDirective major minor, after)
  else after.fail .versionDirective start .noDigitOrPoint

def tagDirective (start : Mark) (cursor : Cursor) :
    Except SyntaxFault (Token.Kind × Cursor) := do
  let (handle, after) ← tagHandle true start (cursor.skipWhile isBlank)
  if !after.rest.head?.any isBlank then after.fail .tagDirective start .noWhitespace
  else
    let (leader, after) ←
      tagText .leaderOfDirective true [] start (after.skipWhile isBlank)
    if atSpace after.rest then return (.tagDirective (String.ofList handle) leader, after)
    else after.fail .tagDirective start .noWhitespaceOrBreak

def directiveValue (start : Mark) (name : List Char) (cursor : Cursor) :
    Except SyntaxFault (Token.Kind × Cursor) :=
  match String.ofList name with
  | "YAML" => version start cursor
  | "TAG" => tagDirective start cursor
  | _ => cursor.fail .directive start .unknownDirective

def directive (cursor : Cursor) : Except SyntaxFault (Token.Kind × Cursor) := do
  let start := cursor.mark
  let (name, after) := cursor.skip.takeWhile isWord
  if name.isEmpty then after.fail .directive start .noDirectiveName
  else if !atSpace after.rest then after.fail .directive start .nonAlphabetic
  else
    let (kind, after) ← directiveValue start name after
    let after := (after.skipWhile isBlank).skipComment
    if atBreak after.rest then return (kind, after.skipBreak)
    else after.fail .directive start .noCommentOrBreak

end ProviderForge.Yaml.Property

import ProviderForge.Yaml.Fault

namespace ProviderForge.Yaml

/-- What a text may contain. -/
def isAllowed (character : Char) : Bool :=
  let code := character.toNat
  code == 0x9 || code == 0xA || code == 0xD || (0x20 ≤ code && code ≤ 0x7E) || code == 0x85 ||
    (0xA0 ≤ code && code ≤ 0xD7FF) || (0xE000 ≤ code && code ≤ 0xFFFD) ||
    (0x10000 ≤ code && code ≤ 0x10FFFF)

def isBlank (character : Char) : Bool :=
  character == ' ' || character == '\t'

def nextLine : Char := Char.ofNat 0x85

def lineSeparator : Char := Char.ofNat 0x2028

def paragraphSeparator : Char := Char.ofNat 0x2029

def byteOrderMark : Char := Char.ofNat 0xFEFF

def isBreak (character : Char) : Bool :=
  character == '\n' || character == '\r' || character == nextLine ||
    character == lineSeparator || character == paragraphSeparator

/-- What names of anchors, handles and directives consist of. -/
def isWord (character : Char) : Bool :=
  character.isAlphanum || character == '_' || character == '-'

/-- A text at the end of a line or of the whole text. -/
def atBreak : List Char → Bool
  | [] => true
  | character :: _ => isBreak character

/-- A text that starts with white space, or no text. -/
def atSpace : List Char → Bool
  | [] => true
  | character :: _ => isBlank character || isBreak character

def startsWith (character : Char) (text : List Char) : Bool :=
  text.head? == some character

def byteCount (text : List Char) : Nat :=
  text.foldl (fun count character => count + character.utf8Size) 0

structure Cursor where
  rest : List Char
  mark : Mark := {}
deriving Repr

namespace Cursor

def column (cursor : Cursor) : Nat :=
  cursor.mark.column

def skip (cursor : Cursor) : Cursor :=
  match cursor with
  | ⟨[], mark⟩ => ⟨[], mark⟩
  | ⟨character :: rest, mark⟩ =>
      ⟨rest, ⟨mark.index + character.utf8Size, mark.line, mark.column + 1⟩⟩

def skipMany (cursor : Cursor) : Nat → Cursor
  | 0 => cursor
  | count + 1 => cursor.skip.skipMany count

def takeWhile (cursor : Cursor) (test : Char → Bool) : List Char × Cursor :=
  let found := cursor.rest.takeWhile test
  let count := found.length
  (found, ⟨cursor.rest.drop count,
    ⟨cursor.mark.index + byteCount found, cursor.mark.line, cursor.mark.column + count⟩⟩)

def skipWhile (cursor : Cursor) (test : Char → Bool) : Cursor :=
  (cursor.takeWhile test).2

/-- Two characters may make one line break. -/
def skipBreak (cursor : Cursor) : Cursor :=
  let next (width : Nat) (rest : List Char) : Cursor :=
    ⟨rest, ⟨cursor.mark.index + width, cursor.mark.line + 1, 0⟩⟩
  match cursor.rest with
  | [] => cursor
  | '\r' :: '\n' :: rest => next 2 rest
  | character :: rest => if isBreak character then next character.utf8Size rest else cursor

/-- The line break ahead as a scalar contains it, and the text behind. -/
def takeBreak (cursor : Cursor) : List Char × Cursor :=
  let text := match cursor.rest with
    | [] => []
    | character :: _ =>
        if character == lineSeparator || character == paragraphSeparator then [character]
        else if isBreak character then ['\n']
        else []
  (text, cursor.skipBreak)

/-- A comment ends before the line does. -/
def skipComment (cursor : Cursor) : Cursor :=
  if startsWith '#' cursor.rest then cursor.skipWhile (!isBreak ·) else cursor

/-- An indicator between documents: three signs at the start of a line. -/
def isAtIndicator (sign : Char) (cursor : Cursor) : Bool :=
  cursor.column == 0 && cursor.rest.take 3 == [sign, sign, sign] && atSpace (cursor.rest.drop 3)

def isAtDocumentIndicator (cursor : Cursor) : Bool :=
  cursor.isAtIndicator '-' || cursor.isAtIndicator '.'

def fail (cursor : Cursor) (activity : Activity) (start : Mark) (problem : Problem) :
    Except SyntaxFault α :=
  .error ⟨problem, cursor.mark, some (activity, start)⟩

end Cursor

end ProviderForge.Yaml

import ProviderForge.Yaml.Barrier
import ProviderForge.Yaml.BlockScalar
import ProviderForge.Yaml.FlowScalar
import ProviderForge.Yaml.Property

/-!
Tokens of YAML texts, read ahead as far as it takes to know whether the first of them starts
the key of a mapping. The colon that tells may come many tokens later.
-/

namespace ProviderForge.Yaml

/-- A place where a key may start whose colon has not been read. -/
structure PossibleKey where
  number : Nat
  mark : Mark
  /-- Whether nothing but a key may stand there. -/
  isRequired : Bool
deriving Repr

namespace PossibleKey

def fault (key : PossibleKey) (mark : Mark) : SyntaxFault :=
  ⟨.noColon, mark, some (.simpleKey, key.mark)⟩

def longestKey : Nat := 1024

/-- A key without indicator is short and stands on one line. -/
def isStale (key : PossibleKey) (mark : Mark) : Bool :=
  key.mark.line < mark.line || key.mark.index + longestKey < mark.index

end PossibleKey

structure Lexer where
  cursor : Cursor
  /-- Where the text ends that can be read, if not at its end. -/
  barrier : Option Barrier := none
  queue : List Token := []
  taken : Nat := 0
  /-- The columns of the open block collections, the innermost first. -/
  blocks : List Nat := []
  possibleKey : Option PossibleKey := none
  /-- The possible keys around the open flow collections, the innermost first. -/
  outerKeys : List (Option PossibleKey) := []
  allowsKey : Bool := true
deriving Repr

namespace Lexer

def ofText (text : List Char) : Lexer :=
  { cursor := { rest := text }, barrier := Barrier.ofText? text }

def mark (lexer : Lexer) : Mark :=
  lexer.cursor.mark

def isInFlow (lexer : Lexer) : Bool :=
  !lexer.outerKeys.isEmpty

/-- The first column that belongs to the contents of the innermost block collection. -/
def margin (lexer : Lexer) : Nat :=
  match lexer.blocks with
  | [] => 0
  | column :: _ => column + 1

def put (kind : Token.Kind) (mark : Mark) (lexer : Lexer) : Lexer :=
  { lexer with queue := lexer.queue ++ [⟨kind, mark⟩] }

def putAt (number : Nat) (kind : Token.Kind) (mark : Mark) (lexer : Lexer) : Lexer :=
  { lexer with queue := lexer.queue.insertIdx (number - lexer.taken) ⟨kind, mark⟩ }

def keepFresh (mark : Mark) : Option PossibleKey → Except SyntaxFault (Option PossibleKey)
  | none => .ok none
  | some key =>
      if !key.isStale mark then .ok (some key)
      else if key.isRequired then .error (key.fault mark)
      else .ok none

def dropStaleKeys (lexer : Lexer) : Except SyntaxFault Lexer := do
  let outerKeys ← lexer.outerKeys.mapM (keepFresh lexer.mark)
  let possibleKey ← keepFresh lexer.mark lexer.possibleKey
  return { lexer with outerKeys, possibleKey }

/-- Gives up the possible key outside the open flow collections, or within the innermost. -/
def dropKey (lexer : Lexer) : Except SyntaxFault Lexer :=
  match lexer.possibleKey with
  | none => .ok lexer
  | some key =>
      if key.isRequired then .error (key.fault lexer.mark)
      else .ok { lexer with possibleKey := none }

def saveKey (lexer : Lexer) : Except SyntaxFault Lexer :=
  if !lexer.allowsKey then .ok lexer
  else do
    let lexer ← lexer.dropKey
    return { lexer with possibleKey := some {
      number := lexer.taken + lexer.queue.length
      mark := lexer.mark
      isRequired := !lexer.isInFlow && lexer.margin == lexer.mark.column + 1 } }

def opensBlock (column : Nat) (lexer : Lexer) : Bool :=
  !lexer.isInFlow && lexer.margin ≤ column

def openBlock (kind : Token.Kind) (lexer : Lexer) : Lexer :=
  let column := lexer.mark.column
  if lexer.opensBlock column then
    { lexer.put kind lexer.mark with blocks := column :: lexer.blocks }
  else lexer

/-- Ends the block collections whose contents start behind `margin`. -/
def closeBlocks (margin : Nat) (lexer : Lexer) : Lexer :=
  if lexer.isInFlow then lexer
  else
    let count := (lexer.blocks.takeWhile (margin ≤ ·)).length
    { lexer with
      blocks := lexer.blocks.drop count
      queue := lexer.queue ++ List.replicate count ⟨.blockEnd, lexer.mark⟩ }

/-- Moves to the next token. A new line allows a key, and tabs are blank only where no key
may start. -/
def skipGap (fuel : Nat) (lexer : Lexer) : Lexer :=
  let cursor := lexer.cursor
  let cursor :=
    if cursor.column == 0 && startsWith byteOrderMark cursor.rest then cursor.skip else cursor
  let allowsTab := lexer.isInFlow || !lexer.allowsKey
  let cursor := (cursor.skipWhile fun next => next == ' ' || (allowsTab && next == '\t'))
  let cursor := cursor.skipComment
  match fuel with
  | 0 => { lexer with cursor }
  | fuel + 1 =>
      if cursor.rest.head?.any isBreak then
        skipGap fuel { lexer with
          cursor := cursor.skipBreak
          allowsKey := lexer.allowsKey || !lexer.isInFlow }
      else { lexer with cursor }

def indicator (kind : Token.Kind) (width : Nat) (allowsKey : Bool) (lexer : Lexer) : Lexer :=
  { lexer.put kind lexer.mark with cursor := lexer.cursor.skipMany width, allowsKey }

/-- The end of a text that does not end its last line stands on a new one. -/
def streamEnd (lexer : Lexer) : Except SyntaxFault Lexer := do
  let mark := lexer.mark
  let mark := if mark.column = 0 then mark else ⟨mark.index, mark.line + 1, 0⟩
  let lexer := { lexer with cursor := ⟨[], mark⟩ }
  let lexer ← (lexer.closeBlocks 0).dropKey
  return { lexer.put .streamEnd mark with allowsKey := false }

def directive (lexer : Lexer) : Except SyntaxFault Lexer := do
  let lexer ← (lexer.closeBlocks 0).dropKey
  let (kind, after) ← Property.directive lexer.cursor
  return { lexer.put kind lexer.mark with cursor := after, allowsKey := false }

def documentIndicator (kind : Token.Kind) (lexer : Lexer) : Except SyntaxFault Lexer := do
  let lexer ← (lexer.closeBlocks 0).dropKey
  return lexer.indicator kind 3 false

def flowStart (kind : Token.Kind) (lexer : Lexer) : Except SyntaxFault Lexer := do
  let lexer ← lexer.saveKey
  return { lexer.indicator kind 1 true with
    possibleKey := none
    outerKeys := lexer.possibleKey :: lexer.outerKeys }

def flowEnd (kind : Token.Kind) (lexer : Lexer) : Except SyntaxFault Lexer := do
  let lexer ← lexer.dropKey
  let ended := lexer.indicator kind 1 false
  match lexer.outerKeys with
  | [] => return ended
  | key :: outerKeys => return { ended with possibleKey := key, outerKeys }

def flowEntry (lexer : Lexer) : Except SyntaxFault Lexer := do
  let lexer ← lexer.dropKey
  return lexer.indicator .flowEntry 1 true

def refuse (problem : Problem) (lexer : Lexer) : Except SyntaxFault α :=
  .error ⟨problem, lexer.mark, none⟩

def blockEntry (lexer : Lexer) : Except SyntaxFault Lexer := do
  if !lexer.isInFlow && !lexer.allowsKey then lexer.refuse .entryNotAllowed
  else
    let lexer ← (lexer.openBlock .blockSequenceStart).dropKey
    return lexer.indicator .blockEntry 1 true

def key (lexer : Lexer) : Except SyntaxFault Lexer := do
  if !lexer.isInFlow && !lexer.allowsKey then lexer.refuse .keyNotAllowed
  else
    let lexer ← (lexer.openBlock .blockMappingStart).dropKey
    return lexer.indicator .key 1 (!lexer.isInFlow)

/-- A colon. It makes a key of the tokens since the possible key. -/
def value (lexer : Lexer) : Except SyntaxFault Lexer :=
  match lexer.possibleKey with
  | some key =>
      let column := key.mark.column
      let withKey := lexer.putAt key.number .key key.mark
      let opened :=
        if lexer.opensBlock column then
          { withKey.putAt key.number .blockMappingStart key.mark with
            blocks := column :: lexer.blocks }
        else withKey
      .ok ({ opened with possibleKey := none }.indicator .value 1 false)
  | none =>
      if !lexer.isInFlow && !lexer.allowsKey then lexer.refuse .valueNotAllowed
      else .ok ((lexer.openBlock .blockMappingStart).indicator .value 1 (!lexer.isInFlow))

def inlineToken (read : Cursor → Except SyntaxFault (Token.Kind × Cursor)) (lexer : Lexer) :
    Except SyntaxFault Lexer := do
  let lexer ← lexer.saveKey
  let (kind, after) ← read lexer.cursor
  return { lexer.put kind lexer.mark with cursor := after, allowsKey := false }

def anchor (lexer : Lexer) : Except SyntaxFault Lexer :=
  lexer.inlineToken fun cursor => do
    let (name, after) ← Property.name .anchor cursor
    return (.anchor name, after)

def reference (lexer : Lexer) : Except SyntaxFault Lexer :=
  lexer.inlineToken fun cursor => do
    let (name, after) ← Property.name .reference cursor
    return (.reference name, after)

def tag (lexer : Lexer) : Except SyntaxFault Lexer :=
  lexer.inlineToken fun cursor => do
    let (name, after) ← Property.tag lexer.isInFlow cursor
    return (.tag name, after)

def quoted (quotes : FlowScalar.Quotes) (lexer : Lexer) : Except SyntaxFault Lexer :=
  lexer.inlineToken fun cursor => do
    let (text, after) ← FlowScalar.quoted quotes cursor
    return (.scalar text quotes.style, after)

/-- A key may follow a plain scalar that ends its line. -/
def plain (lexer : Lexer) : Except SyntaxFault Lexer := do
  let lexer ← lexer.saveKey
  let found ← FlowScalar.plain lexer.isInFlow lexer.margin lexer.cursor
  return { lexer.put (.scalar (String.ofList found.text) .plain) lexer.mark with
    cursor := found.after
    allowsKey := found.endsLine }

def block (isLiteral : Bool) (lexer : Lexer) : Except SyntaxFault Lexer := do
  let lexer ← lexer.dropKey
  let (text, after) ← BlockScalar.read isLiteral lexer.margin lexer.cursor
  return { lexer.put (.scalar text (if isLiteral then .literal else .folded)) lexer.mark with
    cursor := after
    allowsKey := true }

def isIndicator (character : Char) : Bool :=
  "-?:,[]\x7b\x7d#&*!|>'\"%@\x60".toList.contains character

def startsPlain (isInFlow : Bool) : List Char → Bool
  | [] => false
  | character :: rest =>
      !(isBlank character || isBreak character || isIndicator character) ||
        (character == '-' && !rest.head?.any isBlank) ||
        (!isInFlow && (character == '?' || character == ':') && !atSpace rest)

def scan (lexer : Lexer) : Except SyntaxFault Lexer :=
  let cursor := lexer.cursor
  let otherwise : Except SyntaxFault Lexer :=
    if startsPlain lexer.isInFlow cursor.rest then lexer.plain
    else cursor.fail .nextToken cursor.mark .badTokenStart
  match cursor.rest with
  | [] => lexer.streamEnd
  | character :: rest =>
      if cursor.column == 0 && character == '%' then lexer.directive
      else if cursor.isAtIndicator '-' then lexer.documentIndicator .documentStart
      else if cursor.isAtIndicator '.' then lexer.documentIndicator .documentEnd
      else match character with
        | '[' => lexer.flowStart .flowSequenceStart
        | '\x7b' => lexer.flowStart .flowMappingStart
        | ']' => lexer.flowEnd .flowSequenceEnd
        | '\x7d' => lexer.flowEnd .flowMappingEnd
        | ',' => lexer.flowEntry
        | '-' => if atSpace rest then lexer.blockEntry else otherwise
        | '?' => if lexer.isInFlow || atSpace rest then lexer.key else otherwise
        | ':' => if lexer.isInFlow || atSpace rest then lexer.value else otherwise
        | '*' => lexer.reference
        | '&' => lexer.anchor
        | '!' => lexer.tag
        | '|' => if lexer.isInFlow then otherwise else lexer.block true
        | '>' => if lexer.isInFlow then otherwise else lexer.block false
        | '\'' => lexer.quoted .single
        | '"' => lexer.quoted .double
        | _ => otherwise

/-- Reads one more token, and the ends of the block collections that it leaves. -/
def advance (lexer : Lexer) : Except SyntaxFault Lexer := do
  let lexer ← (lexer.skipGap (lexer.cursor.rest.length + 1)).dropStaleKeys
  (lexer.closeBlocks (lexer.mark.column + 1)).scan

def fetch (lexer : Lexer) : Except SyntaxFault Lexer :=
  let found := lexer.advance
  let reached := match found with
    | .ok after => after.mark.index
    | .error fault => fault.mark.index
  match lexer.barrier with
  | some barrier => if barrier.index ≤ reached then .error barrier.fault else found
  | none => found

/-- Whether the first token may still turn out to start a key. -/
def isUndecided (lexer : Lexer) : Bool :=
  (lexer.possibleKey :: lexer.outerKeys).any fun key => key.any (·.number == lexer.taken)

def settle (fuel : Nat) (lexer : Lexer) : Except SyntaxFault Lexer :=
  match fuel with
  | 0 => .ok lexer
  | fuel + 1 => do
      if lexer.queue.isEmpty then settle fuel (← lexer.fetch)
      else
        let lexer ← lexer.dropStaleKeys
        if lexer.isUndecided then settle fuel (← lexer.fetch) else return lexer

def peek (lexer : Lexer) : Except SyntaxFault (Token × Lexer) := do
  let lexer ← lexer.settle (lexer.cursor.rest.length + 3)
  return (lexer.queue.headD ⟨.streamEnd, lexer.mark⟩, lexer)

def skip (lexer : Lexer) : Lexer :=
  { lexer with queue := lexer.queue.tail, taken := lexer.taken + 1 }

end Lexer

end ProviderForge.Yaml

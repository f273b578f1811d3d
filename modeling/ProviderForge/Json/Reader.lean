import ProviderForge.Document.Request
import ProviderForge.Json.Number
import ProviderForge.Text.Character

/-!
Reading JSON texts as documents. The places of faults are counted in bytes, and a fault may
show differently to those who skip the value that holds it.
-/

namespace ProviderForge.Json.Reader

inductive SyntaxFault
  | endInList
  | endInObject
  | endInString
  | endInValue
  | expectedColon
  | expectedCommaOrBracket
  | expectedCommaOrBrace
  | expectedWord
  | expectedValue
  | invalidEscape
  | invalidNumber
  | numberOutOfRange
  | controlCharacter
  | keyNotString
  | loneSurrogate
  | trailingComma
  | trailingCharacters
  | unpairedSurrogate
  | tooDeep
deriving DecidableEq, Repr

def SyntaxFault.message : SyntaxFault → String
  | .endInList => "EOF while parsing a list"
  | .endInObject => "EOF while parsing an object"
  | .endInString => "EOF while parsing a string"
  | .endInValue => "EOF while parsing a value"
  | .expectedColon => "expected `:`"
  | .expectedCommaOrBracket => "expected `,` or `]`"
  | .expectedCommaOrBrace => "expected `,` or `\x7d`"
  | .expectedWord => "expected ident"
  | .expectedValue => "expected value"
  | .invalidEscape => "invalid escape"
  | .invalidNumber => "invalid number"
  | .numberOutOfRange => "number out of range"
  | .controlCharacter => "control character (\\u0000-\\u001F) found while parsing a string"
  | .keyNotString => "key must be a string"
  | .loneSurrogate => "lone leading surrogate in hex escape"
  | .trailingComma => "trailing comma"
  | .trailingCharacters => "trailing characters"
  | .unpairedSurrogate => "unexpected end of hex escape"
  | .tooDeep => "recursion limit exceeded"

/-- The rest of a text and the place where it starts. The column counts the bytes before it
in its line. -/
structure Cursor where
  rest : List Char
  line : Nat := 1
  column : Nat := 0

namespace Cursor

def next (cursor : Cursor) : Cursor :=
  match cursor.rest with
  | [] => cursor
  | '\n' :: rest => ⟨rest, cursor.line + 1, 0⟩
  | character :: rest => ⟨rest, cursor.line, cursor.column + character.utf8Size⟩

def isBlank (character : Char) : Bool :=
  character == ' ' || character == '\n' || character == '\t' || character == '\r'

def skipBlanks (cursor : Cursor) : Cursor :=
  let rec skip (line column : Nat) : List Char → Cursor
    | '\n' :: rest => skip (line + 1) 0 rest
    | character :: rest =>
        if isBlank character then skip line (column + 1) rest
        else ⟨character :: rest, line, column⟩
    | [] => ⟨[], line, column⟩
  skip cursor.line cursor.column cursor.rest

def location (cursor : Cursor) : Location :=
  ⟨"", some ⟨cursor.line, cursor.column⟩⟩

def peekLocation (cursor : Cursor) : Location :=
  match cursor.rest with
  | [] => cursor.location
  | '\n' :: _ => ⟨"", some ⟨cursor.line + 1, 0⟩⟩
  | _ => ⟨"", some ⟨cursor.line, cursor.column + 1⟩⟩

def here (cursor : Cursor) (fault : SyntaxFault) : Fault :=
  ⟨.malformed fault.message, some cursor.location⟩

def ahead (cursor : Cursor) (fault : SyntaxFault) : Fault :=
  ⟨.malformed fault.message, some cursor.peekLocation⟩

/-- Moves on by bytes, possibly into a character. -/
def skipBytes (cursor : Cursor) : Nat → Cursor
  | 0 => cursor
  | count + 1 =>
      match cursor.rest with
      | [] => cursor
      | '\n' :: rest => skipBytes ⟨rest, cursor.line + 1, 0⟩ count
      | character :: rest =>
          if character.utf8Size ≤ count + 1 then
            let moved : Cursor := ⟨rest, cursor.line, cursor.column + character.utf8Size⟩
            skipBytes moved (count + 1 - character.utf8Size)
          else ⟨rest, cursor.line, cursor.column + count + 1⟩
termination_by count => count
decreasing_by
  · omega
  · have := Char.utf8Size_pos character
    omega

def bytesAhead (cursor : Cursor) (characters : Nat) : Nat :=
  (cursor.rest.take characters).foldl (fun length character => length + character.utf8Size) 0

/-- A closing character belongs to the collection that it ends. -/
def pastClosing (closing : Char) (cursor : Cursor) : Cursor :=
  match cursor.rest with
  | character :: _ => if character = closing then cursor.next else cursor
  | [] => cursor

end Cursor

/-- What was read of a token: the result for those who use it, and where the text goes on, or
the fault for those who skip it. -/
structure Reading (α : Type) where
  decoded : Except Fault α
  continued : Except Fault Cursor

namespace Reading

def done (value : α) (cursor : Cursor) : Reading α := ⟨.ok value, .ok cursor⟩

def fail (fault : Fault) : Reading α := ⟨.error fault, .error fault⟩

/-- An earlier fault comes first for those who use the token. -/
def spoiledBy (spoiled : Option Fault) (reading : Reading α) : Reading α :=
  match spoiled with
  | some fault => { reading with decoded := .error fault }
  | none => reading

end Reading

def hexUnit (cursor : Cursor) : Except Fault (Nat × Cursor) :=
  if cursor.bytesAhead 4 < 4 then
    .error ((cursor.skipBytes (cursor.bytesAhead 4)).here .endInString)
  else match (cursor.rest.take 4).mapM Text.hexValue? with
    | some digits =>
        .ok (digits.foldl (fun value digit => value * 16 + digit) 0, cursor.skipBytes 4)
    | none => .error ((cursor.skipBytes 4).here .invalidEscape)

def isLeading (unit : Nat) : Bool := 0xd800 ≤ unit && unit ≤ 0xdbff

def isTrailing (unit : Nat) : Bool := 0xdc00 ≤ unit && unit ≤ 0xdfff

def trailingUnit (cursor : Cursor) : Except Fault (Nat × Cursor) :=
  match cursor.rest with
  | [] => .error (cursor.here .endInString)
  | '\\' :: _ =>
      let cursor := cursor.next
      match cursor.rest with
      | [] => .error (cursor.here .endInString)
      | 'u' :: _ => do
          let (unit, cursor) ← hexUnit cursor.next
          if isTrailing unit then return (unit, cursor)
          else throw (cursor.here .loneSurrogate)
      | _ => .error ((cursor.skipBytes 1).here .unpairedSurrogate)
  | _ => .error ((cursor.skipBytes 1).here .unpairedSurrogate)

def simpleEscape? : Char → Option Char
  | '"' => some '"'
  | '\\' => some '\\'
  | '/' => some '/'
  | 'b' => some (Char.ofNat 8)
  | 'f' => some (Char.ofNat 12)
  | 'n' => some '\n'
  | 'r' => some '\r'
  | 't' => some '\t'
  | _ => none

/-- The character of an escape behind its backslash. Those who skip the string do not pair
the units. -/
def escape (cursor : Cursor) : Reading (Char × Cursor) :=
  match cursor.rest with
  | [] => .fail (cursor.here .endInString)
  | 'u' :: _ =>
      match hexUnit cursor.next with
      | .error fault => .fail fault
      | .ok (unit, after) =>
          let decoded :=
            if isTrailing unit then .error (after.here .loneSurrogate)
            else if isLeading unit then do
              let (second, after) ← trailingUnit after
              return (Char.ofNat (0x10000 + (unit - 0xd800) * 1024 + (second - 0xdc00)), after)
            else .ok (Char.ofNat unit, after)
          ⟨decoded, .ok after⟩
  | character :: _ =>
      match simpleEscape? character with
      | some value => .done (value, cursor.next) cursor.next
      | none => .fail ((cursor.skipBytes 1).here .invalidEscape)

def stringTail (fuel : Nat) (taken : List Char) (spoiled : Option Fault) (cursor : Cursor) :
    Reading String :=
  match fuel with
  | 0 => .fail (cursor.here .endInString)
  | fuel + 1 =>
      match cursor.rest with
      | [] => (Reading.fail (cursor.here .endInString)).spoiledBy spoiled
      | '"' :: _ => (Reading.done (String.ofList taken.reverse) cursor.next).spoiledBy spoiled
      | '\\' :: _ =>
          let reading := escape cursor.next
          match reading.decoded, reading.continued with
          | .ok (character, after), _ =>
              stringTail fuel (character :: taken) spoiled after
          | .error fault, .ok after => stringTail fuel taken (spoiled.or (some fault)) after
          | .error fault, .error skipping =>
              Reading.spoiledBy spoiled ⟨.error fault, .error skipping⟩
      | character :: _ =>
          if character.toNat < 32 then
            Reading.spoiledBy spoiled
              ⟨.error ((cursor.skipBytes 1).here .controlCharacter),
                .error (cursor.here .controlCharacter)⟩
          else stringTail fuel (character :: taken) spoiled cursor.next

def string (fuel : Nat) (cursor : Cursor) : Reading String :=
  stringTail fuel [] none cursor

def word (cursor : Cursor) (expected : List Char) : Except Fault Cursor :=
  match expected with
  | [] => .ok cursor
  | letter :: letters =>
      match cursor.rest with
      | [] => .error (cursor.here .endInValue)
      | character :: _ =>
          if character = letter then word cursor.next letters
          else .error ((cursor.skipBytes 1).here .expectedWord)

def digits (cursor : Cursor) : List Char × Cursor :=
  let found := cursor.rest.takeWhile Char.isDigit
  (found, ⟨cursor.rest.drop found.length, cursor.line, cursor.column + found.length⟩)

def exponentDigits (cursor : Cursor) : Reading (List Char × Cursor) :=
  match cursor.rest with
  | [] => ⟨.error (cursor.here .endInValue), .error (cursor.here .invalidNumber)⟩
  | character :: _ =>
      if character.isDigit then
        let found := digits cursor
        .done found found.2
      else .fail ((cursor.skipBytes 1).here .invalidNumber)

def exponentLimit : Nat := UInt32.size / 2

def exponentOverflow? (value : Nat) (cursor : Cursor) : List Char → Option Cursor
  | [] => none
  | digit :: rest =>
      let value := value * 10 + Number.digitValue digit
      if value < exponentLimit then exponentOverflow? value cursor.next rest
      else some cursor.next

def floating (isNegative : Bool) (magnitude : Double) : Atom :=
  .floating (Floating.compactText (.finite isNegative magnitude))

def floatingValue (isNegative : Bool) (whole fraction : List Char)
    (exponent : Option (Bool × List Char × Cursor)) (after : Cursor) : Except Fault Atom :=
  let ofExponent (value : Int) : Except Fault Atom :=
    match Number.magnitude? whole fraction value with
    | some magnitude => .ok (floating isNegative magnitude)
    | none => .error (after.here .numberOutOfRange)
  match exponent with
  | none => ofExponent 0
  | some (isReduced, exponentDigits, start) =>
      match exponentOverflow? 0 start exponentDigits with
      | some stop =>
          if (Number.significand whole fraction).1 ≠ 0 ∧ !isReduced then
            .error (stop.here .numberOutOfRange)
          else .ok (floating isNegative .zero)
      | none =>
          let value : Int := Number.naturalOf exponentDigits
          ofExponent (if isReduced then -value else value)

def integerValue (isNegative : Bool) (whole : List Char) (after : Cursor) :
    Except Fault Atom :=
  let value := Number.naturalOf whole
  if !isNegative ∧ value < Number.word64Limit then .ok (.integer value)
  else if isNegative ∧ 0 < value ∧ value ≤ Number.word64Limit / 2 then .ok (.integer (-value))
  else floatingValue isNegative whole [] none after

def exponentPart (isNegative : Bool) (whole fraction : List Char) (cursor : Cursor) :
    Reading Atom :=
  let (isReduced, cursor) := match cursor.rest with
    | '+' :: _ => (false, cursor.next)
    | '-' :: _ => (true, cursor.next)
    | _ => (false, cursor)
  let reading := exponentDigits cursor
  match reading.decoded with
  | .error fault => ⟨.error fault, reading.continued⟩
  | .ok (found, after) =>
      ⟨floatingValue isNegative whole fraction (some (isReduced, found, cursor)) after, .ok after⟩

def fractionPart (isNegative : Bool) (whole : List Char) (cursor : Cursor) : Reading Atom :=
  let (fraction, after) := digits cursor
  if fraction.isEmpty then
    let fault : SyntaxFault := if after.rest.isEmpty then .endInValue else .invalidNumber
    ⟨.error (after.ahead fault), .error (after.ahead .invalidNumber)⟩
  else match after.rest with
    | 'e' :: _ | 'E' :: _ => exponentPart isNegative whole fraction after.next
    | _ => ⟨floatingValue isNegative whole fraction none after, .ok after⟩

def magnitude (isNegative : Bool) (cursor : Cursor) : Reading Atom :=
  match cursor.rest with
  | [] => ⟨.error (cursor.here .endInValue), .error (cursor.here .invalidNumber)⟩
  | character :: _ =>
      if !character.isDigit then .fail ((cursor.skipBytes 1).here .invalidNumber)
      else
        let (whole, after) := digits cursor
        if character = '0' ∧ 1 < whole.length then .fail (cursor.next.ahead .invalidNumber)
        else match after.rest with
          | '.' :: _ => fractionPart isNegative whole after.next
          | 'e' :: _ | 'E' :: _ => exponentPart isNegative whole [] after.next
          | _ => ⟨integerValue isNegative whole after, .ok after⟩

/-- A document and where the text goes on behind it, if it does. -/
abbrev Parsed := Document × Option Cursor

def unusable (fault : Fault) : Document :=
  .unusable { decoding := fault }

def ofWord (start : Cursor) (atom : Atom) (result : Except Fault Cursor) : Parsed :=
  match result with
  | .ok after =>
      (.scalar (.ofAtom atom) (some start.location) (some after.location), some after)
  | .error fault =>
      (.unusable {
        decoding := fault
        choosing := start.ahead .expectedValue
        absence := if atom matches .absent _ then some fault else none }, none)

def skipping (continued : Except Fault Cursor) : Option Fault :=
  match continued with
  | .ok _ => none
  | .error fault => some fault

/-- The document of a token. `choosing` is the fault for those who want a choice, if it is
not that of the token. -/
def ofReading (start : Cursor) (reading : Reading Atom) (choosing : Option Fault) : Parsed :=
  match reading.decoded, reading.continued with
  | .ok atom, .ok after =>
      (.scalar (.ofAtom atom) (some start.location) (some after.location), some after)
  | .error fault, continued =>
      (.unusable {
        decoding := fault
        skipping := skipping continued
        choosing := choosing.getD fault }, continued.toOption)
  | .ok _, .error fault => (unusable fault, none)

def ofString (start : Cursor) (reading : Reading String) : Parsed :=
  ofReading start ⟨Atom.string <$> reading.decoded, reading.continued⟩ none

/-- What those report who have read all they want of a list, when it goes on. -/
def surplusFault? (cursor : Cursor) : Option Fault :=
  match cursor.rest with
  | [] => some (cursor.ahead .endInList)
  | ']' :: _ => none
  | ',' :: _ =>
      let following := cursor.next.skipBlanks
      match following.rest with
      | ']' :: _ => some (following.ahead .trailingComma)
      | _ => some (following.ahead .trailingCharacters)
  | _ => some (cursor.ahead .trailingCharacters)

/-- Where a fault of an item is put: behind the bracket or the comma after it. -/
def itemLocation (cursor : Cursor) : Location :=
  match cursor.rest with
  | ']' :: _ => cursor.next.location
  | ',' :: _ => cursor.next.skipBlanks.location
  | _ => cursor.location

def memberLocation (cursor : Cursor) : Location :=
  (cursor.pastClosing '\x7d').location

def depthLimit : Nat := 128

/-- A list or an object at the depth limit is of use only to those who skip it. -/
def limitDepth (depth : Nat) (start : Cursor) (parsed : Parsed) : Parsed :=
  if depth + 1 < depthLimit then parsed
  else
    let fault := start.ahead .tooDeep
    let choosing := match start.rest with
      | '[' :: _ => start.ahead .expectedValue
      | _ => fault
    (.unusable { decoding := fault, skipping := parsed.1.skipFault?, choosing }, parsed.2)

structure Parts (α : Type) where
  parts : List α
  ending : Ending
  continued : Option Cursor

def Parts.closed (cursor : Cursor) : Parts α :=
  ⟨[], .closed (some cursor.location), some cursor⟩

def Parts.broken (decoding skipping : Fault) : Parts α :=
  ⟨[], .broken decoding skipping, none⟩

/-- The text stops in the last part, which reports it. -/
def Parts.stopped (part : α) : Parts α :=
  ⟨[part], .closed none, none⟩

def Parts.cons (part : α) (parts : Parts α) : Parts α :=
  { parts with parts := part :: parts.parts }

/-- No string stands where the first key should. Those who want a choice look at what stands
there instead. -/
def noFirstKey (fault choosing : Fault) : Parts (Entry Document) :=
  let key := Document.unusable { decoding := fault, choosing }
  .stopped ⟨key, key, none, none⟩

mutual
def value (fuel depth : Nat) (cursor : Cursor) : Parsed :=
  match fuel with
  | 0 => (unusable (cursor.here .endInValue), none)
  | fuel + 1 =>
      let start := cursor.skipBlanks
      let after := start.next
      match start.rest with
      | [] => (unusable (start.ahead .endInValue), none)
      | 'n' :: _ => ofWord start (.absent "null") (word after ['u', 'l', 'l'])
      | 't' :: _ => ofWord start (.flag true) (word after ['r', 'u', 'e'])
      | 'f' :: _ => ofWord start (.flag false) (word after ['a', 'l', 's', 'e'])
      | '"' :: _ => ofString start (string (fuel + 1) after)
      | '-' :: _ =>
          ofReading start (magnitude true after) (some (start.ahead .expectedValue))
      | '[' :: _ =>
          let parsed := firstItem fuel (depth + 1) after.skipBlanks
          limitDepth depth start
            (.sequence none parsed.parts parsed.ending (some start.location), parsed.continued)
      | '\x7b' :: _ =>
          let parsed := firstMember fuel (depth + 1) after.skipBlanks
          limitDepth depth start
            (.mapping none parsed.parts parsed.ending (some start.location), parsed.continued)
      | character :: _ =>
          if character.isDigit then
            ofReading start (magnitude false start) (some (start.ahead .expectedValue))
          else (unusable (start.ahead .expectedValue), none)

def firstItem (fuel depth : Nat) (cursor : Cursor) : Parts (Item Document) :=
  match fuel with
  | 0 => .broken (cursor.ahead .endInList) (cursor.ahead .endInList)
  | fuel + 1 =>
      match cursor.rest with
      | [] => .broken (cursor.ahead .endInList) (cursor.ahead .endInList)
      | ']' :: _ => .closed cursor.next
      | _ => items fuel depth cursor

def items (fuel depth : Nat) (cursor : Cursor) : Parts (Item Document) :=
  match fuel with
  | 0 => .broken (cursor.ahead .endInList) (cursor.ahead .endInList)
  | fuel + 1 =>
      match value fuel depth cursor with
      | (document, none) => .stopped ⟨document, none, none⟩
      | (document, some after) =>
          let after := after.skipBlanks
          let item := ⟨document, some (itemLocation after), surplusFault? after⟩
          .cons item <|
            match after.rest with
            | [] => .broken (after.ahead .endInList) (after.ahead .endInList)
            | ']' :: _ => .closed after.next
            | ',' :: _ =>
                let following := after.next.skipBlanks
                match following.rest with
                | [] => .broken (following.ahead .endInValue) (following.ahead .endInValue)
                | ']' :: _ =>
                    .broken (following.ahead .trailingComma) (following.ahead .expectedValue)
                | _ => items fuel depth following
            | _ =>
                .broken (after.ahead .expectedCommaOrBracket)
                  (after.ahead .expectedCommaOrBracket)

def firstMember (fuel depth : Nat) (cursor : Cursor) : Parts (Entry Document) :=
  match fuel with
  | 0 => .broken (cursor.ahead .endInObject) (cursor.ahead .endInObject)
  | fuel + 1 =>
      match cursor.rest with
      | [] => noFirstKey (cursor.ahead .endInObject) (cursor.ahead .endInValue)
      | '\x7d' :: _ => .closed cursor.next
      | '"' :: _ => members fuel depth cursor
      | _ =>
          let found := (value fuel depth cursor).1
          noFirstKey (cursor.ahead .keyNotString) (found.mismatch Document.variantExpected)

def members (fuel depth : Nat) (cursor : Cursor) : Parts (Entry Document) :=
  match fuel with
  | 0 => .broken (cursor.ahead .endInObject) (cursor.ahead .endInObject)
  | fuel + 1 =>
      match ofString cursor (string (fuel + 1) cursor.next) with
      | (key, none) => .stopped ⟨key, key, none, none⟩
      | (key, some after) =>
          let after := after.skipBlanks
          let afterKey := some (memberLocation after)
          match after.rest with
          | ':' :: _ =>
              match value fuel depth after.next with
              | (document, none) => .stopped ⟨key, document, afterKey, none⟩
              | (document, some after) =>
                  let after := after.skipBlanks
                  .cons ⟨key, document, afterKey, some (memberLocation after)⟩ <|
                    match after.rest with
                    | [] => .broken (after.ahead .endInObject) (after.ahead .endInObject)
                    | '\x7d' :: _ => .closed after.next
                    | ',' :: _ =>
                        let following := after.next.skipBlanks
                        match following.rest with
                        | [] =>
                            .broken (following.ahead .endInValue) (following.ahead .endInObject)
                        | '"' :: _ => members fuel depth following
                        | '\x7d' :: _ =>
                            .broken (following.ahead .trailingComma)
                              (following.ahead .keyNotString)
                        | _ =>
                            .broken (following.ahead .keyNotString)
                              (following.ahead .keyNotString)
                    | _ =>
                        .broken (after.ahead .expectedCommaOrBrace)
                          (after.ahead .expectedCommaOrBrace)
          | [] => .stopped ⟨key, unusable (after.ahead .endInObject), afterKey, none⟩
          | _ => .stopped ⟨key, unusable (after.ahead .expectedColon), afterKey, none⟩
end

def read (text : List Char) : Document × Option Fault :=
  let start : Cursor := { rest := text }
  let (document, continued) := value (4 * text.length + 4) 0 start
  match continued with
  | none => (document, none)
  | some after =>
      let after := after.skipBlanks
      (document, if after.rest.isEmpty then none else some (after.ahead .trailingCharacters))

def decode (text : List Char) (request : Document → Except Fault α) : Except Fault α := do
  let (document, trailing) := read text
  let result ← request document
  match trailing with
  | some fault => throw fault
  | none => return result

end ProviderForge.Json.Reader

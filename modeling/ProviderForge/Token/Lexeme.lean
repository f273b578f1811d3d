import ProviderForge.Text.Character
import ProviderForge.Text.IdentifierClass
import ProviderForge.Token.Quoted

/-!
The lexemes of code texts. Each `after…` function takes a text and gives what remains of it
behind one lexeme of its class, or `none` when the text does not begin with one.
-/

namespace ProviderForge.Lexeme

open Text

def startsWith (expected : List Char) (text : List Char) : Bool :=
  expected.isPrefixOf text

def splitLine : List Char → List Char × List Char
  | [] => ([], [])
  | '\n' :: rest => ([], '\n' :: rest)
  | '\r' :: '\n' :: rest => ([], '\n' :: rest)
  | character :: rest =>
      let (line, rest) := splitLine rest
      (character :: line, rest)

/-- Splits behind the mark that closes the comment; comments nest. The first `depth` closing
marks belong to comments opened inside. -/
def splitBlock (depth : Nat) : List Char → Option (List Char × List Char)
  | '/' :: '*' :: rest =>
      (splitBlock (depth + 1) rest).map fun (inside, rest) => ('/' :: '*' :: inside, rest)
  | '*' :: '/' :: rest =>
      match depth with
      | 0 => some ([], rest)
      | depth + 1 =>
          (splitBlock depth rest).map fun (inside, rest) => ('*' :: '/' :: inside, rest)
  | character :: rest =>
      (splitBlock depth rest).map fun (inside, rest) => (character :: inside, rest)
  | [] => none

inductive Comment
  | plain (rest : List Char)
  | doc (inner : Bool) (text : List Char) (rest : List Char)

/-- The comment at the head of a text; three slashes or two stars open a doc comment,
four slashes or three stars a plain one. -/
def comment? : List Char → Option Comment
  | '/' :: '/' :: '!' :: rest =>
      let (line, rest) := splitLine rest
      some (.doc true line rest)
  | '/' :: '/' :: '/' :: '/' :: rest => some (.plain (splitLine rest).2)
  | '/' :: '/' :: '/' :: rest =>
      let (line, rest) := splitLine rest
      some (.doc false line rest)
  | '/' :: '/' :: rest => some (.plain (splitLine rest).2)
  | '/' :: '*' :: '!' :: rest =>
      (splitBlock 0 rest).map fun (inside, rest) => .doc true inside rest
  | '/' :: '*' :: '*' :: '/' :: rest => some (.plain rest)
  | '/' :: '*' :: '*' :: '*' :: rest =>
      (splitBlock 0 ('*' :: '*' :: rest)).map fun (_, rest) => .plain rest
  | '/' :: '*' :: '*' :: rest =>
      (splitBlock 0 rest).map fun (inside, rest) => .doc false inside rest
  | '/' :: '*' :: rest => (splitBlock 0 rest).map fun (_, rest) => .plain rest
  | _ => none

/-- A doc comment may not hold a carriage return that ends no line. -/
def hasBareReturn : List Char → Bool
  | [] => false
  | '\r' :: '\n' :: rest => hasBareReturn rest
  | '\r' :: _ => true
  | _ :: rest => hasBareReturn rest

def splitName? : List Char → Option (List Char × List Char)
  | [] => none
  | character :: rest =>
      if isIdentifierStart character then
        some (character :: rest.takeWhile isIdentifierContinue,
          rest.dropWhile isIdentifierContinue)
      else none

def cannotBeRaw (name : List Char) : Bool :=
  name == ['_'] || name == "super".toList || name == "self".toList ||
    name == "Self".toList || name == "crate".toList

def splitIdentifier? : List Char → Option (List Char × List Char)
  | 'r' :: '#' :: rest =>
      match splitName? rest with
      | some (name, rest) =>
          if cannotBeRaw name then none else some ('r' :: '#' :: name, rest)
      | none => none
  | text => splitName? text

def literalMarks : List (List Char) :=
  ["r\"".toList, "r#\"".toList, "r##".toList, "b\"".toList, "b'".toList, "br\"".toList,
    "br#".toList, "c\"".toList, "cr\"".toList, "cr#".toList]

/-- An identifier where a literal mark is not taken for one. -/
def splitPlainIdentifier? (text : List Char) : Option (List Char × List Char) :=
  if literalMarks.any (startsWith · text) then none else splitIdentifier? text

def afterSuffix (text : List Char) : List Char :=
  match splitName? text with
  | some (_, rest) => rest
  | none => text

def isHexDigit (character : Char) : Bool :=
  (Text.hexValue? character).isSome

def afterBracedHex (value count : Nat) : List Char → Option (Nat × List Char)
  | [] => none
  | character :: rest =>
      if character = '\x7d' then
        if 0 < count ∧ value.isValidChar then some (value, rest) else none
      else if character = '_' then
        if 0 < count then afterBracedHex value count rest else none
      else match Text.hexValue? character with
        | some digit =>
            if count = 6 then none
            else afterBracedHex (value * 16 + digit) (count + 1) rest
        | none => none

def afterUnicodeEscape : List Char → Option (Nat × List Char)
  | '\x7b' :: rest => afterBracedHex 0 0 rest
  | _ => none

/-- Behind the blanks that follow a backslash at a line end; `last` is the character just
passed. -/
def afterLineContinuation (last : Char) : List Char → Option (List Char)
  | text =>
      if last = '\r' then
        match text with
        | '\n' :: rest => skip rest
        | _ => none
      else skip text
where
  skip : List Char → Option (List Char)
    | ' ' :: rest => skip rest
    | '\t' :: rest => skip rest
    | '\n' :: rest => skip rest
    | '\r' :: '\n' :: rest => skip rest
    | '\r' :: _ => none
    | [] => none
    | character :: rest => some (character :: rest)

/-- Which characters and escapes the three kinds of quoted literals admit. -/
structure QuotedKind where
  admits : Char → Bool
  admitsHex : Char → Char → Bool
  simpleEscapes : List Char
  admitsCodePoint : Nat → Bool

def QuotedKind.text : QuotedKind where
  admits _ := true
  admitsHex high low := '0' ≤ high && high ≤ '7' && isHexDigit low
  simpleEscapes := ['n', 'r', 't', '\\', '\'', '"', '0']
  admitsCodePoint _ := true

def QuotedKind.bytes : QuotedKind where
  admits character := character.toNat < 128
  admitsHex high low := isHexDigit high && isHexDigit low
  simpleEscapes := ['n', 'r', 't', '\\', '0', '\'', '"']
  admitsCodePoint _ := false

def QuotedKind.terminated : QuotedKind where
  admits character := character.toNat ≠ 0
  admitsHex high low := isHexDigit high && isHexDigit low && !(high == '0' && low == '0')
  simpleEscapes := ['n', 'r', 't', '\\', '\'', '"']
  admitsCodePoint value := value ≠ 0

/-- Behind one escape, whose backslash is passed. -/
def QuotedKind.afterEscape (kind : QuotedKind) : List Char → Option (List Char)
  | 'x' :: high :: low :: rest => if kind.admitsHex high low then some rest else none
  | 'u' :: rest =>
      match afterUnicodeEscape rest with
      | some (value, rest) => if kind.admitsCodePoint value then some rest else none
      | none => none
  | '\n' :: rest => afterLineContinuation '\n' rest
  | '\r' :: rest => afterLineContinuation '\r' rest
  | character :: rest => if kind.simpleEscapes.contains character then some rest else none
  | [] => none

def QuotedKind.afterCooked (kind : QuotedKind) : Nat → List Char → Option (List Char)
  | 0, _ => none
  | fuel + 1, text =>
      match text with
      | [] => none
      | '"' :: rest => some (afterSuffix rest)
      | '\r' :: '\n' :: rest => kind.afterCooked fuel rest
      | '\r' :: _ => none
      | '\\' :: rest =>
          match kind.afterEscape rest with
          | some rest => kind.afterCooked fuel rest
          | none => none
      | character :: rest =>
          if kind.admits character then kind.afterCooked fuel rest else none

def QuotedKind.afterRawText (kind : QuotedKind) (hashes : List Char) :
    List Char → Option (List Char)
  | [] => none
  | '"' :: rest =>
      if startsWith hashes rest then some (afterSuffix (rest.drop hashes.length))
      else kind.afterRawText hashes rest
  | '\r' :: '\n' :: rest => kind.afterRawText hashes rest
  | '\r' :: _ => none
  | character :: rest =>
      if kind.admits character then kind.afterRawText hashes rest else none

/-- A raw string has at most 255 hashes on each side. -/
def QuotedKind.afterRaw (kind : QuotedKind) (text : List Char) : Option (List Char) :=
  let hashes := text.takeWhile (· == '#')
  match text.drop hashes.length with
  | '"' :: rest => if hashes.length ≤ 255 then kind.afterRawText hashes rest else none
  | _ => none

def QuotedKind.afterString (kind : QuotedKind) (text : List Char) : Option (List Char) :=
  kind.afterCooked (text.length + 1) text

def afterStringLiteral : List Char → Option (List Char)
  | '"' :: rest => QuotedKind.text.afterString rest
  | 'r' :: rest => QuotedKind.text.afterRaw rest
  | 'b' :: '"' :: rest => QuotedKind.bytes.afterString rest
  | 'b' :: 'r' :: rest => QuotedKind.bytes.afterRaw rest
  | 'c' :: '"' :: rest => QuotedKind.terminated.afterString rest
  | 'c' :: 'r' :: rest => QuotedKind.terminated.afterRaw rest
  | _ => none

def QuotedKind.afterOne (kind : QuotedKind) : List Char → Option (List Char)
  | '\\' :: '\n' :: _ => none
  | '\\' :: '\r' :: _ => none
  | '\\' :: rest => kind.afterEscape rest
  | character :: rest => if kind.admits character then some rest else none
  | [] => none

def afterClosingApostrophe : List Char → Option (List Char)
  | '\'' :: rest => some (afterSuffix rest)
  | _ => none

def afterCharacterLiteral : List Char → Option (List Char)
  | 'b' :: '\'' :: rest => (QuotedKind.bytes.afterOne rest).bind afterClosingApostrophe
  | '\'' :: rest => (QuotedKind.text.afterOne rest).bind afterClosingApostrophe
  | _ => none

def endsWord : List Char → Bool
  | [] => true
  | character :: _ => !isIdentifierContinue character

/-- Behind the suffix of a number, which no further letter may follow. -/
def afterNumberSuffix (text : List Char) : Option (List Char) :=
  let rest := afterSuffix text
  if endsWord rest then some rest else none

/-- Behind the exponent of a number whose mark is passed; `none` without a digit. -/
def afterExponent (signed valued : Bool) : List Char → Option (List Char)
  | [] => if valued then some [] else none
  | character :: rest =>
      if character = '+' ∨ character = '-' then
        if valued then some (character :: rest)
        else if signed then none
        else afterExponent true false rest
      else if isAsciiDigit character then afterExponent signed true rest
      else if character = '_' then afterExponent signed valued rest
      else if valued then some (character :: rest) else none

/-- Behind the digits of a number with a point or an exponent. Before an exponent without
digits a number that has a point ends. -/
def afterDecimalDigits (pointed : Bool) : List Char → Option (List Char)
  | [] => if pointed then some [] else none
  | character :: rest =>
      if isAsciiDigit character || character == '_' then afterDecimalDigits pointed rest
      else if character = '.' ∧ pointed = false then
        match rest with
        | next :: _ =>
            if next == '.' || isIdentifierStart next then none
            else afterDecimalDigits true rest
        | [] => some []
      else if character = 'e' ∨ character = 'E' then
        match afterExponent false false rest with
        | some rest => some rest
        | none => if pointed then some (character :: rest) else none
      else if pointed then some (character :: rest) else none

def afterFloat : List Char → Option (List Char)
  | character :: rest =>
      if isAsciiDigit character then (afterDecimalDigits false rest).bind afterNumberSuffix
      else none
  | [] => none

/-- Behind digits of a base, of which there must be one; a decimal digit beyond the base is
refused. -/
def afterDigits (base : Nat) (empty : Bool) : List Char → Option (List Char)
  | [] => if empty then none else some []
  | character :: rest =>
      if isAsciiDigit character then
        if character.toNat - 48 < base then afterDigits base false rest else none
      else if character = '_' then
        if empty && base == 10 then none else afterDigits base empty rest
      else match Text.hexValue? character with
        | some digit =>
            if digit < base then afterDigits base false rest
            else if empty then none else some (character :: rest)
        | none => if empty then none else some (character :: rest)

def afterInteger (text : List Char) : Option (List Char) :=
  let digits :=
    match text with
    | '0' :: 'x' :: rest => afterDigits 16 true rest
    | '0' :: 'o' :: rest => afterDigits 8 true rest
    | '0' :: 'b' :: rest => afterDigits 2 true rest
    | _ => afterDigits 10 true text
  digits.bind afterNumberSuffix

/-- A string, a character, or a number, in this order. -/
def afterLiteral (text : List Char) : Option (List Char) :=
  afterStringLiteral text <|> afterCharacterLiteral text <|> afterFloat text <|>
    afterInteger text

def punctuation : List Char :=
  "~!@#$%^&*-=+|;:,<.>/?'".toList

def startsComment (text : List Char) : Bool :=
  startsWith ['/', '/'] text || startsWith ['/', '*'] text

def splitPunctuation? (text : List Char) : Option (Char × List Char) :=
  match text with
  | [] => none
  | character :: rest =>
      if startsComment text then none
      else if punctuation.contains character then some (character, rest)
      else none

/-- One punctuation token. An apostrophe needs the name of a lifetime behind it. -/
def splitPunct? (text : List Char) : Option (Token × List Char) :=
  match splitPunctuation? text with
  | none => none
  | some ('\'', rest) =>
      match splitIdentifier? rest with
      | none => none
      | some (_, behind) =>
          if behind.head? == some '\'' ||
              (behind.head? == some '#' && !startsWith ['r', '#'] rest) then none
          else some (.punct '\'' .joint, rest)
  | some (character, rest) =>
      let spacing := if (splitPunctuation? rest).isSome then .joint else .alone
      some (.punct character spacing, rest)

def errorMark : List Char := "(/*ERROR*/)".toList

end ProviderForge.Lexeme

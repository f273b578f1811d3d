import ProviderForge.Text.Character
import ProviderForge.Text.Printable
import ProviderForge.Token.Basic

namespace ProviderForge.Quoted

open Text

def unicodeEscape (character : Char) : List Char :=
  ['\\', 'u', '\x7b'] ++ Nat.toDigits 16 character.toNat ++ ['\x7d']

def isOctalDigit (character : Char) : Bool :=
  '0' ≤ character && character ≤ '7'

/-- A zero is written so that a digit after it cannot be taken for part of the escape. -/
def escapeZero : List Char → List Char
  | next :: _ => if isOctalDigit next then ['\\', 'x', '0', '0'] else ['\\', '0']
  | [] => ['\\', '0']

def escapeCharacter (character : Char) (following : List Char) : List Char :=
  if character.toNat = 0 then escapeZero following
  else if character = '\t' then ['\\', 't']
  else if character = '\r' then ['\\', 'r']
  else if character = '\n' then ['\\', 'n']
  else if character = '"' then ['\\', '"']
  else if character = '\\' then ['\\', '\\']
  else if extendsGrapheme character then unicodeEscape character
  else if isVisible character then [character]
  else unicodeEscape character

def escape : List Char → List Char
  | [] => []
  | character :: rest => escapeCharacter character rest ++ escape rest

def quote (text : String) : String :=
  String.ofList ('"' :: escape text.toList ++ ['"'])

/-- A text as messages show it: each character is escaped on its own. -/
def shown (text : String) : String :=
  String.ofList ('"' :: text.toList.flatMap (escapeCharacter · []) ++ ['"'])

def unicodeValue (value : Nat) : List Char → Nat × List Char
  | [] => (value, [])
  | character :: rest =>
      if character = '\x7d' then (value, rest)
      else match hexValue? character with
        | some digit => unicodeValue (value * 16 + digit) rest
        | none => unicodeValue value rest

def unescape (fuel : Nat) (text : List Char) : List Char :=
  match fuel with
  | 0 => []
  | fuel + 1 =>
      match text with
      | [] => []
      | '"' :: _ => []
      | '\r' :: '\n' :: rest => '\n' :: unescape fuel rest
      | '\\' :: 'n' :: rest => '\n' :: unescape fuel rest
      | '\\' :: 'r' :: rest => '\r' :: unescape fuel rest
      | '\\' :: 't' :: rest => '\t' :: unescape fuel rest
      | '\\' :: '0' :: rest => Char.ofNat 0 :: unescape fuel rest
      | '\\' :: 'x' :: high :: low :: rest =>
          let value := (hexValue? high).getD 0 * 16 + (hexValue? low).getD 0
          Char.ofNat value :: unescape fuel rest
      | '\\' :: 'u' :: '\x7b' :: rest =>
          let (value, rest) := unicodeValue 0 rest
          Char.ofNat value :: unescape fuel rest
      | '\\' :: '\n' :: rest => unescape fuel (rest.dropWhile isLineBlank)
      | '\\' :: '\r' :: rest => unescape fuel (rest.dropWhile isLineBlank)
      | '\\' :: character :: rest => character :: unescape fuel rest
      | character :: rest => character :: unescape fuel rest
where
  isLineBlank (character : Char) : Bool :=
    character == ' ' || character == '\t' || character == '\n' || character == '\r'

/-- The text of a raw literal after its opening quote, up to the quote before `closing`. -/
def rawText (closing : List Char) : List Char → List Char
  | [] => []
  | '"' :: rest => if closing.isPrefixOf rest then [] else '"' :: rawText closing rest
  | character :: rest => character :: rawText closing rest

/-- The text that a string literal denotes; `none` for any other literal. -/
def value? (literal : String) : Option String :=
  match literal.toList with
  | '"' :: rest => some (String.ofList (unescape rest.length rest))
  | 'r' :: rest =>
      let hashes := rest.takeWhile (· == '#')
      match rest.drop hashes.length with
      | '"' :: rest => some (String.ofList (rawText hashes rest))
      | _ => none
  | _ => none

end ProviderForge.Quoted

import ProviderForge.Token.Lexeme

/-!
Reading a code text as token trees. The reader keeps the groups that are still open on a
stack, innermost first, each with the tokens before it.
-/

namespace ProviderForge

namespace Lexer

open Lexeme

/-- A group that is still open: its delimiter and the tokens before it, last first. -/
structure OpenGroup where
  delimiter : Delimiter
  before : List Token

def docTokens (inner : Bool) (text : List Char) : List Token :=
  let mark := .punct '#' .alone ::
    (if inner then [.punct '!' .alone] else [])
  mark ++ [.group .bracket [.ident "doc", .punct '=' .alone,
    .literal (Quoted.quote (String.ofList text))]]

def splitLeaf? (text : List Char) : Option (Token × List Char) :=
  match afterLiteral text with
  | some rest => some (.literal (String.ofList (text.take (text.length - rest.length))), rest)
  | none =>
      match splitPunct? text with
      | some found => some found
      | none =>
          match splitPlainIdentifier? text with
          | some (name, rest) => some (.ident (String.ofList name), rest)
          | none =>
              if startsWith errorMark text then
                some (.literal (String.ofList errorMark), text.drop errorMark.length)
              else none

inductive Step
  | skip (rest : List Char)
  | take (tokens : List Token) (rest : List Char)
  | opening (delimiter : Delimiter) (rest : List Char)
  | closing (delimiter : Delimiter) (rest : List Char)
  | fail

def leafStep (text : List Char) : Step :=
  match splitLeaf? text with
  | some (token, rest) => .take [token] rest
  | none => .fail

def step (character : Char) (rest : List Char) : Step :=
  let text := character :: rest
  if Text.isCodeBlank character then .skip rest
  else match comment? text with
    | some (.plain rest) => .skip rest
    | some (.doc inner line rest) =>
        if hasBareReturn line then leafStep text else .take (docTokens inner line) rest
    | none =>
        match Delimiter.ofOpening? character with
        | some delimiter =>
            if startsWith errorMark text then leafStep text else .opening delimiter rest
        | none =>
            match Delimiter.ofClosing? character with
            | some delimiter => .closing delimiter rest
            | none => leafStep text

/-- `taken` holds the tokens of the innermost open group, last first. -/
def run (fuel : Nat) (stack : List OpenGroup) (taken : List Token)
    (text : List Char) : Option Code :=
  match fuel with
  | 0 => none
  | fuel + 1 =>
      match text with
      | [] => if stack.isEmpty then some taken.reverse else none
      | character :: rest =>
          match step character rest with
          | .skip rest => run fuel stack taken rest
          | .take tokens rest => run fuel stack (tokens.reverse ++ taken) rest
          | .opening delimiter rest => run fuel (⟨delimiter, taken⟩ :: stack) [] rest
          | .closing delimiter rest =>
              match stack with
              | [] => none
              | frame :: stack =>
                  if frame.delimiter = delimiter then
                    run fuel stack (.group delimiter taken.reverse :: frame.before) rest
                  else none
          | .fail => none

def withoutByteOrderMark : List Char → List Char
  | character :: rest => if character.toNat = 0xfeff then rest else character :: rest
  | [] => []

end Lexer

/-- The token trees of a code text; `none` when it has none. -/
def Code.ofText? (text : List Char) : Option Code :=
  let text := Lexer.withoutByteOrderMark text
  Lexer.run (text.length + 1) [] [] text

end ProviderForge

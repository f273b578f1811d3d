import ProviderForge.Text.Character
import ProviderForge.Text.LetterCase

/-!
Patterns that filters name for the values of fields: numbers, and regular expressions. Only their
form matters here. Nothing is known about characters beyond ASCII, so a pattern that needs their
letter case, or the digits, blanks and words among them, is refused. What ends a field, a closing
brace, a comma or an equals sign, does not occur in a pattern, so none has a counted repetition.
-/

namespace ProviderForge.CommandLine.FieldPattern

open Text

/-- How the characters of a pattern are meant. -/
structure Mode where
  ignoresCase : Bool := false
  /-- Blanks say nothing, and comments may stand between. -/
  isSpaced : Bool := false
  /-- Characters are meant, not bytes. -/
  isUnicode : Bool := true
deriving DecidableEq, Repr

namespace Mode

def switch (mode : Mode) (letter : Char) (value : Bool) : Mode :=
  match letter with
  | 'i' => { mode with ignoresCase := value }
  | 'x' => { mode with isSpaced := value }
  | 'u' => { mode with isUnicode := value }
  | _ => mode

/-- Whether letter case would have to be known beyond ASCII. -/
def needsCases (mode : Mode) : Bool :=
  mode.isUnicode && mode.ignoresCase

def admits (mode : Mode) (character : Char) : Bool :=
  if mode.isUnicode then !mode.ignoresCase else isAscii character

def afterBlanks (inComment : Bool) : List Char → List Char
  | [] => []
  | character :: rest =>
      if inComment then afterBlanks (character != '\n') rest
      else if isWhiteSpace character then afterBlanks false rest
      else if character == '#' then afterBlanks true rest
      else character :: rest

def skip (mode : Mode) (text : List Char) : List Char :=
  if mode.isSpaced then afterBlanks false text else text

end Mode

inductive Escape
  | character (value : Char)
  | set
  /-- A place between characters. -/
  | place
deriving DecidableEq, Repr

def hexadecimal? (mode : Mode) (value : Nat) : Nat → List Char → Option (Nat × List Char)
  | 0, text => some (value, text)
  | count + 1, text =>
      match mode.skip text with
      | [] => none
      | digit :: rest => do hexadecimal? mode (value * 16 + (← hexValue? digit)) count rest

def codePoint? (mode : Mode) (count : Nat) (text : List Char) : Option (Escape × List Char) := do
  let (value, rest) ← hexadecimal? mode 0 count text
  if value.isValidChar then some (.character (Char.ofNat value), rest) else none

def controls : List (Char × Char) :=
  [('a', '\x07'), ('f', '\x0c'), ('n', '\n'), ('r', '\r'), ('t', '\t'), ('v', '\x0b')]

def escape? (mode : Mode) : List Char → Option (Escape × List Char)
  | [] => none
  | 'x' :: rest => codePoint? mode 2 rest
  | 'u' :: rest => codePoint? mode 4 rest
  | 'U' :: rest => codePoint? mode 8 rest
  | letter :: rest =>
      if "dsw".toList.contains letter then if mode.isUnicode then none else some (.set, rest)
      else if "bB<>".toList.contains letter then
        if mode.isUnicode then none else some (.place, rest)
      else if "Az".toList.contains letter then some (.place, rest)
      else match controls.lookup letter with
        | some control => some (.character control, rest)
        | none =>
            if isAscii letter && !letter.isAlphanum then some (.character letter, rest) else none

/-- A member of a set: a character, or `none` for a set of its own. -/
def member? (mode : Mode) : List Char → Option (Option Char × List Char)
  | [] => none
  | '\\' :: rest => do
      match ← escape? mode rest with
      | (.character value, rest) => if mode.admits value then some (some value, rest) else none
      | (.set, rest) => some (none, rest)
      | (.place, _) => none
  | character :: rest => if mode.admits character then some (some character, rest) else none

/-- What follows a member, or a range of characters. A dash before a bracket or another dash
makes no range. -/
def afterRange? (mode : Mode) (text : List Char) : Option (List Char) := do
  let (first, rest) ← member? mode text
  match mode.skip rest with
  | '-' :: behind =>
      let behind := mode.skip behind
      if behind.head? == some ']' || behind.head? == some '-' then some (mode.skip rest)
      else
        match first, ← member? mode behind with
        | some least, (some greatest, rest) => if least ≤ greatest then some rest else none
        | _, _ => none
  | rest => some rest

def setNames : List String :=
  ["alnum", "alpha", "ascii", "blank", "cntrl", "digit", "graph", "lower", "print", "punct",
    "space", "upper", "word", "xdigit"]

def afterNamedSet? : List Char → Option (List Char)
  | ':' :: rest =>
      let unsigned := if rest.head? == some '^' then rest.tail else rest
      let name := unsigned.takeWhile (· != ':')
      match unsigned.drop name.length with
      | ':' :: ']' :: rest => if setNames.contains (String.ofList name) then some rest else none
      | _ => none
  | _ => none

/-- What follows the opening of a set. A bracket that closes it at once is a member. The
complement of a set of bytes is refused, since it holds parts of characters. -/
def afterOpening? (mode : Mode) (text : List Char) : Option (List Char) :=
  let withoutBracket (text : List Char) := if text.head? == some ']' then text.tail else text
  if mode.needsCases then none
  else match mode.skip text with
    | '^' :: rest => if mode.isUnicode then some (withoutBracket (mode.skip rest)) else none
    | rest => some (withoutBracket rest)

def afterSet? (mode : Mode) : Nat → Nat → List Char → Option (List Char)
  | 0, _, _ => none
  | fuel + 1, depth, text =>
      match mode.skip text with
      | [] => none
      | ']' :: rest => if depth == 0 then some rest else afterSet? mode fuel (depth - 1) rest
      | '[' :: rest =>
          match afterNamedSet? rest with
          | some rest => afterSet? mode fuel depth rest
          | none => do afterSet? mode fuel (depth + 1) (← afterOpening? mode rest)
      | '&' :: '&' :: rest | '-' :: '-' :: rest | '~' :: '~' :: rest =>
          afterSet? mode fuel depth rest
      | text => do afterSet? mode fuel depth (← afterRange? mode text)

def afterBrackets? (mode : Mode) (text : List Char) : Option (List Char) := do
  let rest ← afterOpening? mode text
  afterSet? mode (rest.length + 1) 0 rest

structure Opening where
  mode : Mode
  isOpen : Bool
  name : Option String := none
  rest : List Char
deriving DecidableEq, Repr

/-- Switches of the mode. Those behind a dash switch off; `seen` has the latest first. -/
def switches? (mode : Mode) (seen : List Char) : List Char → Option Opening
  | [] => none
  | ':' :: rest => if seen.head? == some '-' then none else some { mode, isOpen := true, rest }
  | ')' :: rest =>
      if seen.isEmpty || seen.head? == some '-' then none
      else some { mode, isOpen := false, rest }
  | letter :: rest =>
      if seen.contains letter || !"-imsUuRx".toList.contains letter then none
      else switches? (mode.switch letter (!seen.contains '-')) (letter :: seen) rest

def isName : List Char → Bool
  | [] => false
  | first :: rest =>
      (first == '_' || (isAlphanumeric first && !first.isDigit)) &&
        rest.all fun character => "_.[]".toList.contains character || isAlphanumeric character

def named? (mode : Mode) (text : List Char) : Option Opening :=
  let name := text.takeWhile (· != '>')
  match text.drop name.length with
  | _ :: rest =>
      if isName name then some { mode, isOpen := true, name := some (String.ofList name), rest }
      else none
  | [] => none

def opening? (mode : Mode) (text : List Char) : Option Opening :=
  match mode.skip text with
  | '?' :: 'P' :: '<' :: rest | '?' :: '<' :: rest => named? mode rest
  | '?' :: rest => switches? mode [] rest
  | rest => some { mode, isOpen := true, rest }

structure Progress where
  mode : Mode := {}
  /-- The modes around the groups that are open, the inner ones first. -/
  around : List Mode := []
  names : List String := []
  isRepeatable : Bool := false
deriving DecidableEq, Repr

namespace Progress

/-- Enters a group, or takes on a mode. No two groups have one name. -/
def enter? (progress : Progress) (opening : Opening) : Option Progress :=
  if opening.name.any progress.names.contains then none
  else some {
    mode := opening.mode
    around := if opening.isOpen then progress.mode :: progress.around else progress.around
    names := opening.name.toList ++ progress.names }

def leave? (progress : Progress) : Option Progress :=
  match progress.around with
  | [] => none
  | mode :: around => some { progress with mode, around, isRepeatable := true }

def afterAtom? (mode : Mode) : List Char → Option (List Char)
  | [] | '\x7b' :: _ => none
  | '[' :: rest => afterBrackets? mode rest
  | '\\' :: rest => do
      match ← escape? mode rest with
      | (.character value, rest) => if mode.admits value then some rest else none
      | (_, rest) => some rest
  | '.' :: rest => if mode.isUnicode then some rest else none
  | '^' :: rest | '$' :: rest => some rest
  | character :: rest => if mode.admits character then some rest else none

def step? (progress : Progress) : List Char → Option (Progress × List Char)
  | '(' :: rest => do
      let opening ← opening? progress.mode rest
      some (← progress.enter? opening, opening.rest)
  | ')' :: rest => progress.leave?.map (·, rest)
  | '|' :: rest => some ({ progress with isRepeatable := false }, rest)
  | first :: rest =>
      if "?*+".toList.contains first then
        let behind := if rest.head? == some '?' then rest.tail else rest
        if progress.isRepeatable then some (progress, behind) else none
      else (afterAtom? progress.mode (first :: rest)).map
        ({ progress with isRepeatable := true }, ·)
  | [] => none

/-- Reads to the end, where no group may be open. -/
def reachesEnd (progress : Progress) : Nat → List Char → Bool
  | 0, _ => false
  | fuel + 1, text =>
      match progress.mode.skip text with
      | [] => progress.around.isEmpty
      | text =>
          match progress.step? text with
          | some (next, rest) => next.reachesEnd fuel rest
          | none => false

end Progress

def isExpression (text : List Char) : Bool :=
  Progress.reachesEnd {} (text.length + 1) text

def isExponent : List Char → Bool
  | [] => true
  | mark :: rest =>
      let digits := if rest.head? == some '-' || rest.head? == some '+' then rest.tail else rest
      (mark == 'e' || mark == 'E') && !digits.isEmpty && digits.all Char.isDigit

def isDecimal (text : List Char) : Bool :=
  let whole := text.takeWhile Char.isDigit
  let behind := text.drop whole.length
  let (fraction, exponent) := match behind with
    | '.' :: rest =>
        let fraction := rest.takeWhile Char.isDigit
        (fraction, rest.drop fraction.length)
    | _ => ([], behind)
  !(whole ++ fraction).isEmpty && isExponent exponent

def numberWords : List String :=
  ["inf", "infinity", "nan"]

/-- Whether the text is a number with a plus sign. All other numbers are also expressions. -/
def isPositive : List Char → Bool
  | '+' :: rest => isDecimal rest || numberWords.contains (String.ofList rest).toLower
  | _ => false

def isWellFormed (text : String) : Bool :=
  isPositive text.toList || isExpression text.toList

end ProviderForge.CommandLine.FieldPattern

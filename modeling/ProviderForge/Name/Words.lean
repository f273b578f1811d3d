import ProviderForge.Text.LetterCase

/-!
Names as words. Words are separated by characters that are neither letters nor digits, by a
lowercase letter before an uppercase one, and before the last of several uppercase letters
that a lowercase letter follows.
-/

namespace ProviderForge.Name

open Text

inductive Mode
  | start
  | lower
  | upper
deriving DecidableEq

def Mode.after (mode : Mode) (character : Char) : Mode :=
  if isLowercase character then .lower
  else if isUppercase character then .upper
  else mode

/-- Splits a run of letters and digits at changes of case; `word` holds the current word,
last character first. -/
def splitCase (mode : Mode) (word : List Char) : List Char → List (List Char)
  | [] => if word.isEmpty then [] else [word.reverse]
  | [last] => [(last :: word).reverse]
  | character :: next :: rest =>
      if mode.after character = .lower ∧ isUppercase next then
        (character :: word).reverse :: splitCase .start [] (next :: rest)
      else if mode = .upper ∧ isUppercase character ∧ isLowercase next then
        word.reverse :: splitCase .start [character] (next :: rest)
      else splitCase (mode.after character) (character :: word) (next :: rest)

/-- The runs of letters and digits; `run` holds the current one, last character first. -/
def alphanumericRuns (run : List Char) : List Char → List (List Char)
  | [] => [run.reverse]
  | character :: rest =>
      if isAlphanumeric character then alphanumericRuns (character :: run) rest
      else run.reverse :: alphanumericRuns [] rest

def words (name : List Char) : List (List Char) :=
  (alphanumericRuns [] name).flatMap (splitCase .start [])

/-- A capital sigma at the end of a word has its own lowercase form. -/
def lowercase : List Char → List Char
  | [] => []
  | ['Σ'] => ['ς']
  | character :: rest => toLower character ++ lowercase rest

def capitalize : List Char → List Char
  | [] => []
  | character :: rest => toUpper character ++ lowercase rest

def upperCamel (name : String) : String :=
  String.ofList ((words name.toList).flatMap capitalize)

def snake (name : String) : String :=
  String.ofList (List.intercalate ['_'] ((words name.toList).map lowercase))

end ProviderForge.Name

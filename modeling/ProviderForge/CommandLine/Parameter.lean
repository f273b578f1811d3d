import ProviderForge.Text.Similarity

namespace ProviderForge.CommandLine

inductive Parameter
  | filter
  | output
  | definitions
  | dryRun
  | verbose
  | help
  | version
deriving DecidableEq, Repr

namespace Parameter

def all : List Parameter :=
  [filter, output, definitions, dryRun, verbose, help, version]

def name : Parameter → String
  | filter => "filter"
  | output => "output"
  | definitions => "definitions"
  | dryRun => "dry-run"
  | verbose => "verbose"
  | help => "help"
  | version => "version"

def letter? : Parameter → Option Char
  | output => some 'o'
  | definitions => some 'd'
  | verbose => some 'v'
  | help => some 'h'
  | version => some 'V'
  | filter | dryRun => none

def takesValue : Parameter → Bool
  | filter | output | definitions => true
  | _ => false

/-- Whether the parameter says how to generate. The others ask for a text instead. -/
def isOption : Parameter → Bool
  | help | version => false
  | _ => true

/-- A path may not be empty. -/
def isPath : Parameter → Bool
  | output | definitions => true
  | _ => false

def ofName? (name : String) : Option Parameter :=
  all.find? (·.name == name)

def ofLetter? (letter : Char) : Option Parameter :=
  all.find? (·.letter? == some letter)

def shown : Parameter → String
  | filter => "--filter <FILTER>"
  | output => "--output <OUTPUT>"
  | definitions => "--definitions <DEFINITIONS>"
  | verbose => "--verbose..."
  | parameter => "--" ++ parameter.name

open Text

def suggestionDegree : Similarity.Degree := ⟨7, 10⟩

def similar? (name : String) : Option Parameter :=
  let degree (parameter : Parameter) := Similarity.degree name parameter.name
  let candidates := all.filter fun parameter => suggestionDegree.isAtMost (degree parameter)
  candidates.foldl (fun best parameter =>
    match best with
    | none => some parameter
    | some other =>
        if (degree other).isAtMost (degree parameter) then some parameter else some other) none

end Parameter

end ProviderForge.CommandLine

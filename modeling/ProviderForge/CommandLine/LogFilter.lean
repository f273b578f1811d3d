import ProviderForge.CommandLine.FieldPattern
import ProviderForge.Event

/-!
Which events are logged. A filter is a list of directives; of those that concern an event the most
specific one decides.
-/

namespace ProviderForge.CommandLine

/-- The levels that a filter may ask for, from nothing to everything. -/
inductive Threshold
  | off
  | error
  | warn
  | info
  | debug
  | trace
deriving DecidableEq, Repr

namespace Threshold

def all : List Threshold :=
  [off, error, warn, info, debug, trace]

def name : Threshold → String
  | off => "off"
  | error => "error"
  | warn => "warn"
  | info => "info"
  | debug => "debug"
  | trace => "trace"

/-- A number stands for the level at its place; no text is the level of errors. -/
def ofText? (text : String) : Option Threshold :=
  if text.isEmpty then some error
  else
    let digits := match text.toList with
      | '+' :: rest => rest
      | characters => characters
    if !digits.isEmpty && digits.all Char.isDigit then
      all[digits.foldl (fun value digit => value * 10 + (digit.toNat - 48)) 0]?
    else all.find? fun threshold => threshold.name == text.toLower

def admits : Threshold → Level → Bool
  | off, _ | error, _ => false
  | warn, level => level.rank ≤ Level.warn.rank
  | info, level => level.rank ≤ Level.info.rank
  | debug, _ | trace, _ => true

end Threshold

structure WantedField where
  name : String
  hasValue : Bool := false
deriving DecidableEq, Repr

def WantedField.ofText? (text : List Char) : Option WantedField :=
  let name := text.takeWhile (· != '=')
  match text.drop name.length with
  | [] => some { name := String.ofList name }
  | _ :: rest =>
      if FieldPattern.isWellFormed (String.ofList (rest.takeWhile (· != '='))) then
        some { name := String.ofList name, hasValue := true }
      else none

structure Directive where
  /-- How the names of their sources start. -/
  source : Option String := none
  span : Option String := none
  field : Option WantedField := none
  threshold : Threshold := .trace
deriving DecidableEq, Repr

namespace Directive

/-- A directive as it is written. Places are counted in the text without the blanks around it,
but what stands there is looked up in the text with them. -/
structure Written where
  text : List Char

namespace Written

def trimmed (written : Written) : List Char :=
  let behind := written.text.dropWhile Text.isWhiteSpace
  (behind.reverse.dropWhile Text.isWhiteSpace).reverse

def between (written : Written) (start stop : Nat) : List Char :=
  (written.text.drop start).take (stop - start)

def next? (written : Written) (marks : List Char) (start : Nat) : Option (Nat × Char) :=
  let behind := written.trimmed.drop start
  let length := (behind.takeWhile (!marks.contains ·)).length
  behind[length]?.map (start + length, ·)

/-- The threshold at the place. Where none is written, everything is admitted. -/
def threshold? (written : Written) (start : Nat) : Option Threshold :=
  match written.text.drop start with
  | [] => some .trace
  | text => Threshold.ofText? (String.ofList text)

def afterSpan? (written : Written) (directive : Directive) (start : Nat) : Option Directive :=
  match written.trimmed[start]? with
  | none => some directive
  | some '=' => (written.threshold? (start + 1)).map ({ directive with threshold := · })
  | some _ => none

def notEmpty (text : List Char) : Option String :=
  if text.isEmpty then none else some (String.ofList text)

def afterBrace? (written : Written) (directive : Directive) (start : Nat) : Option Directive := do
  let (stop, _) ← written.next? ['\x7d'] start
  let field ← notEmpty (written.between start stop)
  let field ← WantedField.ofText? field.toList
  if written.trimmed[stop + 1]? == some ']' then
    written.afterSpan? { directive with field := some field } (stop + 2)
  else none

def afterBracket? (written : Written) (directive : Directive) (start : Nat) :
    Option Directive := do
  let (stop, mark) ← written.next? [']', '\x7b'] start
  let name := written.between start stop
  if mark == ']' then
    written.afterSpan? { directive with span := some (String.ofList name) } (stop + 1)
  else written.afterBrace? { directive with span := notEmpty name } (stop + 1)

/-- A text without marks is a threshold for all events if it can be. -/
def unmarked (written : Written) : Directive :=
  let text := String.ofList written.text
  match Threshold.ofText? text with
  | some threshold => { threshold }
  | none => { source := some text }

def startsSource (character : Char) : Bool :=
  Text.isAlphanumeric character || "-:_".toList.contains character

def directive? (written : Written) : Option Directive := do
  let first ← written.trimmed.head?
  if first == '[' then written.afterBracket? {} 1
  else if !startsSource first then none
  else
    match written.next? ['=', '['] 0 with
    | none => some written.unmarked
    | some (stop, mark) =>
        let directive : Directive := { source := some (String.ofList (written.between 0 stop)) }
        if mark == '[' then written.afterBracket? directive (stop + 1)
        else (written.threshold? (stop + 1)).map ({ directive with threshold := · })

end Written

/-- Whether events alone decide what the directive says of them. Nothing is ever in a span, and
values of fields are looked for in spans. -/
def isStatic (directive : Directive) : Bool :=
  directive.span.isNone && directive.field.all (!·.hasValue)

def concerns (directive : Directive) (event : Event) : Bool :=
  directive.isStatic && directive.source.all (·.isPrefixOf event.source) &&
    directive.field.all fun field => event.fieldNames.contains field.name

/-- Whether the other directive says as much about the events, or more: a longer source, or else
a field, or else a later name of the field. -/
def isAtMost (directive other : Directive) : Bool :=
  let place (directive : Directive) := directive.source.elim 0 (·.length + 1)
  if place directive != place other then place directive < place other
  else match directive.field, other.field with
    | none, _ => true
    | some _, none => false
    | some field, some otherField => !(otherField.name < field.name)

end Directive

structure LogFilter where
  directives : List Directive
deriving DecidableEq, Repr

namespace LogFilter

def ofThreshold (threshold : Threshold) : LogFilter :=
  ⟨[{ threshold }]⟩

def ofText? (text : String) : Option LogFilter :=
  let parts := (text.splitOn ",").filter (!·.isEmpty)
  if parts.isEmpty then some (ofThreshold .error)
  else (parts.mapM fun part => Directive.Written.directive? ⟨part.toList⟩).map (⟨·⟩)

def ofVerbosity : Nat → LogFilter
  | 0 => ofThreshold .warn
  | 1 => ofThreshold .info
  | 2 => ofThreshold .debug
  | _ => ofThreshold .trace

def choose (requested : Option String) (verbosity : Nat) : LogFilter :=
  (requested.bind ofText?).getD (ofVerbosity verbosity)

/-- Of two directives that say as much the later counts. -/
def decisive? (filter : LogFilter) (event : Event) : Option Directive :=
  (filter.directives.filter (·.concerns event)).foldl
    (fun best directive =>
      match best with
      | none => some directive
      | some other => if other.isAtMost directive then some directive else some other)
    none

def admits (filter : LogFilter) (event : Event) : Bool :=
  (filter.decisive? event).any (·.threshold.admits event.level)

end LogFilter

end ProviderForge.CommandLine

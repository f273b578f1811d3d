import ProviderForge.Grammar.Generic

namespace ProviderForge.Grammar

open ProviderForge.Parser

/-- Whether the code goes on with parentheses, perhaps behind two colons. -/
def atCallable (code : Code) : Bool :=
  code.atGroup .parenthesis || code.atMark [':', ':'] && code.next.next.atGroup .parenthesis

def bareName? : Syntax → Option String
  | .segment name | .genericSegment _ name [] => some name
  | _ => none

/-- The trait that a bound names; the last name of one of functions can have the parenthesized
types of their inputs behind it. -/
def traitPath (rules : Reader) : Parser Syntax := do
  let (isGlobal, names) ← segments rules false
  match names.getLast? >>= bareName?, ← looksAt atCallable with
  | some name, true =>
      discard (accepts [':', ':'])
      let inputs ← within .parenthesis (commaList (rules (.type true)))
      let last := .callableSegment name inputs (← output rules false)
      return .path isGlobal (names.dropLast ++ [last])
  | _, _ => return .path isGlobal names

def traitBound (rules : Reader) : Parser Syntax := do
  let quantified ← quantifier rules
  if ← accepts ['?'] then
    if quantified.isSome || (← looksAt (·.atWord "for")) then
      refuse "a bound that a question mark relaxes quantifies nothing"
    return .prefixed "?" (← traitPath rules)
  else return .withQuantifier quantified (← traitPath rules)

def atBoundStart (code : Code) : Bool :=
  code.atAnyWord || code.atMark [':', ':'] || code.atMark ['?'] || code.atLifetime ||
    code.atGroup .parenthesis

def capturedName : Parser String := do
  if ← looksAt Code.atLifetime then lifetime
  else if ← acceptsWord "Self" then return "Self"
  else name

def capture : Parser Syntax := do
  word "use"
  mark ['<']
  let captured ← list (·.atMark ['>']) capturedName
  mark ['>']
  return .word ("use<" ++ String.intercalate ", " captured ++ ">")

def bound (rules : Reader) (allowsCapture : Bool) : Parser Syntax := do
  if ← looksAt Code.atLifetime then return .lifetime (← lifetime)
  else if ← looksAt (·.atWord "use") then
    if allowsCapture then capture
    else refuse "`use<...>` precise capturing syntax is not allowed here"
  else if ← looksAt (·.atGroup .parenthesis) then
    return .parenthesized (← within .parenthesis (traitBound rules))
  else traitBound rules

def isTrait : Syntax → Bool
  | .lifetime _ | .word _ => false
  | _ => true

/-- Bounds with plus signs between them; only one unless more are allowed. One of them at
least has to be a trait. -/
def traitBounds (rules : Reader) (allowsPlus allowsCapture : Bool) : Parser (List Syntax) := do
  let first ← rules (.bound allowsCapture)
  let rest ←
    if allowsPlus && (← accepts ['+']) then
      chain (fun code => !atBoundStart code) ['+'] (rules (.bound allowsCapture))
    else pure []
  if (first :: rest).any isTrait then return first :: rest
  else refuse "at least one trait is required"

end ProviderForge.Grammar

import ProviderForge.Grammar.Type
import ProviderForge.Token.Integer

namespace ProviderForge.Grammar

open ProviderForge.Parser

def alternatives (rules : Reader) : Parser Syntax := do
  let hasBar ← accepts ['|']
  let first ← rules .pattern
  if hasBar || (← looksAt Code.atBar) then
    let rest ← many Code.atBar do
      mark ['|']
      rules .pattern
    return .alternatives (first :: rest)
  else return first

/-- A position in a tuple: a number of 32 bits without a suffix. -/
def position? (literal : String) : Option String := do
  let number ← IntegerLiteral.ofText? literal
  if number.suffix.isEmpty && number.value < UInt32.size then some (toString number.value)
  else none

def member : Parser String := do
  match ← get with
  | .literal text :: code =>
      match position? text with
      | some position =>
          set code
          return position
      | none => refuse "expected unsuffixed integer"
  | _ => name

def atRangeStop (code : Code) : Bool :=
  code.isEmpty || code.atMark ['|'] || code.atMark ['='] || code.atColon || code.atMark [','] ||
    code.atMark [';'] || code.atWord "if"

def atPath (code : Code) : Bool :=
  code.atPathStart || code.atMark [':', ':'] || code.atMark ['<']

def constantBlock (rules : Reader) : Parser Syntax := do
  word "const"
  match ← rules (.block true) with
  | .block _ attributes statements => return .keywordBlock "const " attributes statements
  | _ => expect ["curly braces"]

/-- A literal, a path or a constant, unless the range ends here. -/
def rangeEnd (rules : Reader) : Parser (Option Syntax) := do
  let code ← get
  if atRangeStop code then return none
  else if code.atLiteral then return some (← literal)
  else if atPath code then return some (← path rules true)
  else if code.atWord "const" then return some (← constantBlock rules)
  else expect ["literal", "identifier", "`::`", "`<`", "`self`", "`Self`", "`super`", "`crate`",
    "`const`"]

/-- A range operator in a pattern; three points are an old form of the inclusive one. -/
def patternRangeOperator : Parser String := do
  if ← accepts ['.', '.', '='] then return "..="
  else if ← accepts ['.', '.', '.'] then return "..="
  else
    mark ['.', '.']
    return ".."

def patternRange (rules : Reader) (start : Syntax) : Parser Syntax := do
  let operator ← patternRangeOperator
  let finish ← rangeEnd rules
  if operator == "..=" && finish.isNone then expect ["range upper bound"]
  else return .range (some start) operator finish

def boundName : Parser String := do
  let reference ← optionalWord "ref"
  let mutability ← optionalWord "mut"
  let text ← if ← acceptsWord "self" then pure "self" else name
  return reference ++ mutability ++ text

def identifierPattern (rules : Reader) : Parser Syntax := do
  let text ← boundName
  if ← accepts ['@'] then return .prefixed (text ++ " @ ") (← rules .pattern)
  else return .word text

def fieldPattern (rules : Reader) : Parser Syntax := do
  if ← looksAt (·.atOneOf ["ref", "mut"]) then
    let reference ← optionalWord "ref"
    let mutability ← optionalWord "mut"
    return .word (reference ++ mutability ++ (← name))
  else
    let isNamed ← looksAt Code.atName
    let text ← member
    if !isNamed || (← looksAt (·.atMark [':'])) then
      mark [':']
      return .prefixed (text ++ ": ") (← alternatives rules)
    else return .word text

def fieldPatterns (rules : Reader) : Nat → Parser (List Syntax × Option Syntax)
  | 0 => expect ["identifier"]
  | fuel + 1 => do
      if ← isAtEnd then return ([], none)
      let attributes ← outerAttributes rules
      if ← accepts ['.', '.'] then
        return ([], some (.withAttributes attributes (.word "..")))
      let field := Syntax.withAttributes attributes (← fieldPattern rules)
      if ← isAtEnd then return ([field], none)
      mark [',']
      let (rest, remainder) ← fieldPatterns rules fuel
      return (field :: rest, remainder)

def expressionSegment : Syntax → Syntax
  | .genericSegment _ name arguments => .genericSegment true name arguments
  | segment => segment

/-- The path of what a pattern takes apart, which is written without the owner type. -/
def unowned : Syntax → Syntax
  | .qualifiedPath _ none names => .path true names
  | .qualifiedPath _ (some (.path isGlobal contract)) names =>
      .path isGlobal (contract.map expressionSegment ++ names)
  | path => path

def namedPattern (rules : Reader) : Parser Syntax := do
  let named ← path rules true
  let code ← get
  match named, named.isPlainPath && code.atBang with
  | .path isGlobal names, true =>
      mark ['!']
      let (delimiter, content) ← anyGroup
      return .macroCall (pathText isGlobal names) none delimiter content
  | _, _ =>
      if code.atGroup .brace then
        let (fields, remainder) ← within .brace (bounded (fieldPatterns rules))
        return .recordPattern (unowned named) fields remainder
      else if code.atGroup .parenthesis then
        let elements ← within .parenthesis (commaList (alternatives rules))
        return .tuplePattern (unowned named) elements
      else if code.atMark ['.', '.'] then patternRange rules named
      else return named

/-- The patterns in parentheses: one alone is parenthesized, unless it stands for any rest. -/
def parenthesizedPatterns (rules : Reader) : Parser Syntax := do
  if ← isAtEnd then return .tuple [] false
  let first ← alternatives rules
  if ← isAtEnd then
    match first with
    | .word ".." => return .tuple [first] false
    | _ => return .parenthesized first
  else
    mark [',']
    return .tuple (first :: (← commaList (alternatives rules))) true

def isOpenRange : Syntax → Bool
  | .range none _ _ | .range _ _ none => true
  | _ => false

def pattern (rules : Reader) : Parser Syntax := do
  let code ← get
  let following := code.next
  let isNamed :=
    code.atName && (following.atMark [':', ':'] || following.atMark ['!'] ||
      following.atGroup .brace || following.atGroup .parenthesis || following.atMark ['.', '.']) ||
    code.atWord "self" && following.atMark [':', ':'] ||
    code.atMark [':', ':'] || code.atMark ['<'] || code.atOneOf ["Self", "super", "crate"]
  if isNamed then namedPattern rules
  else if code.atWord "_" then
    skip 1
    return .word "_"
  else if code.atMark ['-'] || code.atLiteral || code.atWord "const" then
    match ← rangeEnd rules with
    | some start =>
        if ← looksAt (·.atMark ['.', '.']) then patternRange rules start else return start
    | none => expect ["literal"]
  else if code.atOneOf ["ref", "mut", "self"] || code.atName then identifierPattern rules
  else if code.atMark ['&'] then
    skip 1
    let mutability ← optionalWord "mut"
    return .prefixed ("&" ++ mutability) (← rules .pattern)
  else if code.atGroup .parenthesis then within .parenthesis (parenthesizedPatterns rules)
  else if code.atGroup .bracket then
    let elements ← within .bracket (commaList (alternatives rules))
    if elements.any isOpenRange then
      refuse "range pattern is not allowed unparenthesized inside slice pattern"
    else return .slicePattern elements
  else if code.atMark ['.', '.'] && !code.atMark ['.', '.', '.'] then
    let operator ← patternRangeOperator
    match ← rangeEnd rules with
    | some finish => return .range none operator (some finish)
    | none => if operator == ".." then return .word ".." else expect ["range upper bound"]
  else expect ["identifier", "`::`", "`<`", "`_`", "literal", "`const`", "`ref`", "`mut`", "`&`",
    "parentheses", "square brackets", "`..`"]

end ProviderForge.Grammar

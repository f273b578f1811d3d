import ProviderForge.Grammar.Basic

namespace ProviderForge.Grammar

open ProviderForge.Parser

def plainPath : Parser String := do
  let isGlobal ← accepts [':', ':']
  let first ← pathName
  let rest ← many (·.atMark [':', ':']) do
    mark [':', ':']
    pathName
  return (if isGlobal then "::" else "") ++ String.intercalate "::" (first :: rest)
where
  pathName : Parser String := do
    if ← looksAt Code.atPathStart then anyWord else name

def lifetimeParameter : Parser String := do
  let name ← lifetime
  if ← accepts [':'] then
    let bounds ← chain (fun code => code.atMark [','] || code.atMark ['>']) ['+'] lifetime
    return if bounds.isEmpty then name else name ++ ": " ++ String.intercalate " + " bounds
  else return name

/-- An optional result type, which takes no bounds behind a plus sign unless it may. -/
def output (rules : Reader) (allowsPlus : Bool) : Parser (Option Syntax) := do
  if ← accepts ['-', '>'] then return some (← rules (.type allowsPlus)) else return none

def constantArgument (rules : Reader) : Parser Syntax := do
  if ← looksAt Code.atLiteral then literal
  else if ← looksAt Code.atName then return .path false [.segment (← name)]
  else if ← looksAt (·.atGroup .brace) then rules (.block true)
  else expect ["literal", "identifier", "curly braces"]

def genericArgument (rules : Reader) : Parser Syntax := do
  let code ← get
  if code.atLifetime && !code.next.atMark ['+'] then return .lifetime (← lifetime)
  if code.atLiteral || code.atGroup .brace then return ← constantArgument rules
  let type ← rules (.type true)
  match type with
  | .path false [subject] =>
      if ← accepts ['='] then
        if ← looksAt fun code => code.atLiteral || code.atGroup .brace then
          return .joined subject " = " (← constantArgument rules)
        else return .joined subject " = " (← rules (.type true))
      else if ← accepts [':'] then
        let bounds ← chain (fun code => code.atMark [','] || code.atMark ['>']) ['+']
          (rules (.bound false))
        return .constraint subject bounds
      else return type
  | _ => return type

def genericArguments (rules : Reader) : Parser (List Syntax) := do
  discard (accepts [':', ':'])
  mark ['<']
  let arguments ← list (·.atMark ['>']) (genericArgument rules)
  mark ['>']
  return arguments

def segment (rules : Reader) (isExpression : Bool) : Parser Syntax := do
  if ← looksAt (·.atOneOf ["super", "self", "crate", "try"]) then return .segment (← anyWord)
  let text ← if ← acceptsWord "Self" then pure "Self" else name
  let code ← get
  let isGeneric :=
    !isExpression && code.atMark ['<'] && !code.atMark ['<', '='] &&
        !code.atMark ['<', '<', '='] ||
      code.atMark [':', ':'] && code.next.next.atMark ['<']
  if isGeneric then return .genericSegment isExpression text (← genericArguments rules)
  else return .segment text

def laterSegments (rules : Reader) (isExpression : Bool) : Parser (List Syntax) :=
  many (fun code => code.atMark [':', ':'] && !code.next.next.atGroup .parenthesis) do
    mark [':', ':']
    segment rules isExpression

def segments (rules : Reader) (isExpression : Bool) : Parser (Bool × List Syntax) := do
  let isGlobal ← accepts [':', ':']
  let first ← segment rules isExpression
  return (isGlobal, first :: (← laterSegments rules isExpression))

end ProviderForge.Grammar

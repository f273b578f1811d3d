import ProviderForge.Grammar.Attribute

namespace ProviderForge.Grammar

open ProviderForge.Parser

def typeParameter (rules : Reader) : Parser Syntax := do
  let text ← name
  let bounds ←
    if ← accepts [':'] then
      chain (fun code => code.atMark [','] || code.atMark ['>'] || code.atMark ['=']) ['+']
        (rules (.bound false))
    else pure []
  let fallback ← if ← accepts ['='] then pure (some (← rules (.type true))) else pure none
  return .typeParameter text bounds fallback

def constantParameter (rules : Reader) : Parser Syntax := do
  word "const"
  let text ← name
  mark [':']
  let parameter := Syntax.prefixed ("const " ++ text ++ ": ") (← rules (.type true))
  if ← accepts ['='] then return .joined parameter " = " (← constantArgument rules)
  else return parameter

/-- A parameter; only where `mayBeUnnamed` an underscore can stand for a type. -/
def parameter (rules : Reader) (mayBeUnnamed : Bool) : Parser Syntax := do
  let attributes ← outerAttributes rules
  let code ← get
  let node ←
    if code.atLifetime then pure (.lifetime (← lifetimeParameter))
    else if code.atWord "const" then constantParameter rules
    else if mayBeUnnamed && (← acceptsWord "_") then pure (.typeParameter "_" [] none)
    else typeParameter rules
  return .withAttributes attributes node

def parameters (rules : Reader) : Parser (List Syntax) := do
  if ← accepts ['<'] then
    let parameters ← list (·.atMark ['>']) (parameter rules true)
    mark ['>']
    return parameters
  else return []

def quantifier (rules : Reader) : Parser (Option (List Syntax)) := do
  if ← acceptsWord "for" then
    mark ['<']
    let parameters ← list (·.atMark ['>']) (parameter rules false)
    mark ['>']
    return some parameters
  else return none

/-- Whether what stands in angle brackets here declares parameters, and is not a type. -/
def declaresParameters (code : Code) : Bool :=
  let first := code.next
  let second := first.next
  code.atMark ['<'] &&
    (first.atMark ['>'] || first.atMark ['#'] || first.atWord "const" ||
      (first.atLifetime || first.atName) &&
        (second.atMark ['>'] || second.atMark [','] || second.atColon || second.atMark ['=']))

def atRequirementsEnd (code : Code) : Bool :=
  code.isEmpty || code.atGroup .brace || code.atMark [','] || code.atMark [';'] ||
    code.atColon || code.atMark ['=']

def requirement (rules : Reader) : Parser Syntax := do
  let code ← get
  if code.atLifetime && code.next.atMark [':'] then
    let text ← lifetime
    mark [':']
    let bounds ← chain (fun code => atRequirementsEnd code || code.atMark ['>']) ['+'] lifetime
    return .requirement (.lifetime text) (bounds.map .lifetime)
  else
    let quantified ← quantifier rules
    let type ← rules (.type true)
    mark [':']
    let bounds ← chain atRequirementsEnd ['+'] (rules (.bound false))
    return .requirement (.withQuantifier quantified type) bounds

def requirements (rules : Reader) : Parser (List Syntax) := do
  if ← acceptsWord "where" then
    if ← looksAt declaresParameters then
      refuse "generic parameters on `where` clauses are reserved for future use"
    chain atRequirementsEnd [','] (requirement rules)
  else return []

end ProviderForge.Grammar

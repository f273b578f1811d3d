import ProviderForge.Grammar.Bound

namespace ProviderForge.Grammar

open ProviderForge.Parser

def laterBounds (rules : Reader) : Parser (List Syntax) := do
  many (·.atMark ['+']) do
    mark ['+']
    rules (.bound false)

def convention : Parser String := do
  if ← acceptsWord "extern" then
    match ← get, ← looksAt Code.atText with
    | .literal text :: code, true =>
        set code
        return "extern " ++ text ++ " "
    | _, _ => return "extern "
  else return ""

def atArgumentName (code : Code) : Bool :=
  (code.atName || code.atWord "_") && code.next.atColon

def atReceiverName (code : Code) : Bool :=
  code.atWord "self" && code.next.atColon

/-- The arguments of a function type, up to an argument that stands for any more of them; only
the first can be named as a receiver is. -/
def typeArguments (rules : Reader) (isFirst : Bool) :
    Nat → Parser (List Syntax × Option Syntax)
  | 0 => expect ["type"]
  | fuel + 1 => do
      if ← isAtEnd then return ([], none)
      let attributes ← outerAttributes rules
      let isReceiver := isFirst && (← looksAt atReceiverName)
      let text ← if isReceiver || (← looksAt atArgumentName) then
          let text ← anyWord
          mark [':']
          pure (text ++ ": ")
        else pure ""
      if !isReceiver && (← accepts ['.', '.', '.']) then
        discard (accepts [','])
        return ([], some (.withAttributes attributes (.word (text ++ "..."))))
      let type ← rules (.type true)
      let argument := Syntax.withAttributes attributes
        (if text.isEmpty then type else .prefixed text type)
      if ← isAtEnd then return ([argument], none)
      mark [',']
      let (rest, variadic) ← typeArguments rules false fuel
      return (argument :: rest, variadic)

def functionType (rules : Reader) : Parser Syntax := do
  let safety ← optionalWord "unsafe"
  let convention ← convention
  word "fn"
  let (inputs, variadic) ← within .parenthesis (bounded (typeArguments rules true))
  return .functionType (safety ++ convention) inputs variadic (← output rules false)

def parenthesizedTypes (rules : Reader) : Parser Syntax := do
  if ← isAtEnd then return .tuple [] true
  if ← looksAt Code.atLifetime then
    return .parenthesized (.bounded "dyn " (← traitBounds rules true false))
  if ← looksAt (·.atMark ['?']) then
    return .bounded "dyn " [.parenthesized (← traitBound rules)]
  let first ← rules (.type true)
  if ← accepts [','] then
    return .tuple (first :: (← commaList (rules (.type true)))) true
  else return .parenthesized first

/-- The bound that a parenthesized type can be read as where more bounds follow: a path, or the
only bound of a trait object that neither a keyword nor a plus sign makes one. -/
def asBound? (content : Code) : Syntax → Option Syntax
  | .path isGlobal names => some (.path isGlobal names)
  | .bounded "dyn " [only] =>
      let endsInPlus := content.getLast?.any fun token => Code.atMark ['+'] [token]
      if content.atWord "dyn" || endsInPlus then none
      else match only with
        | .parenthesized inner => some inner
        | bound => some bound
  | _ => none

/-- A parenthesized type, or a trait object that begins with a parenthesized bound. -/
def parenthesizedType (rules : Reader) (allowsPlus : Bool) : Parser Syntax := do
  let content ← preview (group .parenthesis)
  let type ← within .parenthesis (parenthesizedTypes rules)
  let isLast := !(allowsPlus && (← looksAt (·.atMark ['+'])))
  match type with
  | .bounded _ bounds => return .bounded "dyn " (bounds ++ (← laterBounds rules))
  | .parenthesized inner =>
      match content.bind fun (content, _) => asBound? content inner, isLast with
      | some first, false =>
          return .bounded "dyn " (.parenthesized first :: (← laterBounds rules))
      | _, _ => return type
  | _ => return type

def owner (rules : Reader) : Parser (Syntax × Option Syntax) := do
  mark ['<']
  let type ← rules (.type true)
  let contract ←
    if ← acceptsWord "as" then
      let (isGlobal, names) ← segments rules false
      pure (some (.path isGlobal names))
    else pure none
  mark ['>']
  return (type, contract)

def path (rules : Reader) (isExpression : Bool) : Parser Syntax := do
  if ← looksAt (·.atMark ['<']) then
    let (type, contract) ← owner rules
    mark [':', ':']
    let first ← segment rules isExpression
    let rest ← many (·.atMark [':', ':']) do
      mark [':', ':']
      segment rules isExpression
    return .qualifiedPath type contract (first :: rest)
  else
    let (isGlobal, names) ← segments rules isExpression
    return .path isGlobal names

def pathText (isGlobal : Bool) (names : List Syntax) : String :=
  (if isGlobal then "::" else "") ++ String.intercalate "::" (names.map nameText)
where
  nameText : Syntax → String
    | .segment name => name
    | _ => ""

def namedType (rules : Reader) (quantified : Option (List Syntax)) (allowsPlus : Bool) :
    Parser Syntax := do
  let named ← path rules false
  match named with
  | .path isGlobal names => do
      if named.isPlainPath && (← looksAt Code.atBang) then
        mark ['!']
        let (delimiter, content) ← anyGroup
        return .macroCall (pathText isGlobal names) none delimiter content
      let first := Syntax.withQuantifier quantified named
      if allowsPlus && (← accepts ['+']) then
        let rest ← chain (fun code => !atBoundStart code) ['+'] (rules (.bound false))
        return .bounded "dyn " (first :: rest)
      else if quantified.isSome then return .bounded "dyn " [first]
      else return named
  | _ => return named

def type (rules : Reader) (allowsPlus : Bool) : Parser Syntax := do
  let quantified ← quantifier rules
  let code ← get
  if code.atOneOf ["fn", "unsafe", "extern"] then
    return .withQuantifier quantified (← functionType rules)
  else if code.atPathStart then namedType rules quantified allowsPlus
  else if quantified.isSome then
    expect ["identifier", "`fn`", "`unsafe`", "`extern`", "`super`", "`self`", "`Self`", "`crate`"]
  else if code.atGroup .parenthesis then parenthesizedType rules allowsPlus
  else if code.atMark [':', ':'] || code.atMark ['<'] then namedType rules none allowsPlus
  else if code.atWord "dyn" then
    word "dyn"
    return .bounded "dyn " (← traitBounds rules allowsPlus false)
  else if code.atGroup .bracket then
    within .bracket do
      let element ← rules (.type true)
      if ← accepts [';'] then return .repeated element (← rules (.expression true))
      else return .slice element
  else if code.atMark ['*'] then
    mark ['*']
    if ← acceptsWord "mut" then return .prefixed "*mut " (← rules (.type false))
    else
      word "const"
      return .prefixed "*const " (← rules (.type false))
  else if code.atMark ['&'] then
    mark ['&']
    let name ← if ← looksAt Code.atLifetime then pure ((← lifetime) ++ " ") else pure ""
    let mutability ← optionalWord "mut"
    return .prefixed ("&" ++ name ++ mutability) (← rules (.type false))
  else if code.atMark ['!'] && !code.atMark ['='] then
    mark ['!']
    return .word "!"
  else if code.atWord "impl" then
    word "impl"
    return .bounded "impl " (← traitBounds rules allowsPlus true)
  else if code.atWord "_" then
    word "_"
    return .word "_"
  else if code.atLifetime then return .bounded "dyn " (← traitBounds rules true false)
  else expect ["`for`", "parentheses", "`fn`", "`unsafe`", "`extern`", "identifier", "`::`", "`<`",
    "`dyn`", "square brackets", "`*`", "`&`", "`!`", "`impl`", "`_`", "lifetime"]

end ProviderForge.Grammar

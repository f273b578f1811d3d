import ProviderForge.Grammar.Pattern

namespace ProviderForge.Grammar

open ProviderForge.Parser

def loosest : Nat := 0
def assignmentLevel : Nat := 1
def rangeLevel : Nat := 2
def comparisonLevel : Nat := 6
def castLevel : Nat := 13

/-- The binary operators with their levels; a longer operator comes before its beginnings. -/
def operators : List (List Char × Nat) := [
  (['<', '<', '='], 1), (['>', '>', '='], 1), (['+', '='], 1), (['-', '='], 1), (['*', '='], 1),
  (['/', '='], 1), (['%', '='], 1), (['^', '='], 1), (['&', '='], 1), (['|', '='], 1),
  (['&', '&'], 4), (['|', '|'], 3), (['<', '<'], 10), (['>', '>'], 10), (['=', '='], 6),
  (['<', '='], 6), (['!', '='], 6), (['>', '='], 6), (['+'], 11), (['-'], 11), (['*'], 12),
  (['/'], 12), (['%'], 12), (['^'], 8), (['&'], 9), (['|'], 7), (['<'], 6), (['>'], 6)]

def operatorAt? (code : Code) : Option (List Char × Nat) :=
  operators.find? fun operator => code.atMark operator.1

def atAssignment (code : Code) : Bool :=
  code.atMark ['='] && !code.atMark ['=', '>']

def levelAt (code : Code) : Nat :=
  match operatorAt? code with
  | some (_, level) => level
  | none =>
      if atAssignment code then assignmentLevel
      else if code.atMark ['.', '.'] then rangeLevel
      else if code.atWord "as" then castLevel
      else loosest

def isRange : Syntax → Bool
  | .range .. => true
  | .attributed _ node => isRange node
  | _ => false

def isComparison : Syntax → Bool
  | .binary _ operator _ => ["==", "<", "<=", "!=", ">=", ">"].contains operator
  | _ => false

def atBegin (code : Code) : Bool :=
  code.atAnyWord && !code.atWord "as" || code.atGroup .parenthesis || code.atGroup .bracket ||
    code.atGroup .brace || code.atLiteral || code.atBang ||
    code.atMark ['-'] && !code.atMark ['-', '='] && !code.atMark ['-', '>'] ||
    code.atMark ['*'] && !code.atMark ['*', '='] || code.atMark ['|'] && !code.atMark ['|', '='] ||
    code.atMark ['&'] && !code.atMark ['&', '='] || code.atMark ['.', '.'] ||
    code.atMark ['<'] && !code.atMark ['<', '='] && !code.atMark ['<', '<', '='] ||
    code.atMark [':', ':'] || code.atLifetime || code.atMark ['#']

def strengthen (rules : Reader) (allowsRecord : Bool) (level : Nat) (operand : Syntax) :
    Nat → Parser Syntax
  | 0 => return operand
  | fuel + 1 => do
      let code ← get
      let next := levelAt code
      if next > level || next == level && level == assignmentLevel then
        let operand ← rules (.operation allowsRecord operand next)
        if (← get).length == code.length then return operand
        else strengthen rules allowsRecord level operand fuel
      else return operand

def rightOperand (rules : Reader) (allowsRecord : Bool) (level : Nat) : Parser Syntax := do
  let operand ← rules (.operand allowsRecord)
  bounded (strengthen rules allowsRecord level operand)

def rangeOperator : Parser String := do
  if ← accepts ['.', '.', '='] then return "..="
  else if ← looksAt (·.atMark ['.', '.', '.']) then expect ["`..`", "`..=`"]
  else
    mark ['.', '.']
    return ".."

def atRangeEnd (allowsRecord : Bool) (code : Code) : Bool :=
  code.isEmpty || code.atPoint || !allowsRecord && code.atGroup .brace || code.atWord "as" ||
    [[','], [';'], ['?'], ['=', '>'], ['='], ['+'], ['/'], ['%'], ['^'], ['>'], ['<', '='],
      ['!', '='], ['-', '='], ['*', '='], ['&', '='], ['|', '='], ['<', '<', '=']].any
        fun mark => code.atMark mark

def rangeFrom (rules : Reader) (allowsRecord : Bool) (start : Option Syntax) : Parser Syntax := do
  let operator ← rangeOperator
  if operator == ".." && (← looksAt (atRangeEnd allowsRecord)) then
    return .range start operator none
  else return .range start operator (some (← rightOperand rules allowsRecord rangeLevel))

/-- Nothing may be accessed or called right behind a type. -/
def atForbiddenAfterCast (code : Code) : Bool :=
  code.atPoint || code.atMark ['?'] || code.atGroup .bracket || code.atGroup .parenthesis

def castFrom (rules : Reader) (value : Syntax) : Parser Syntax := do
  word "as"
  let type ← rules (.type false)
  if ← looksAt atForbiddenAfterCast then
    refuse "casts cannot be followed by what accesses or calls their value"
  else return .cast value type

def operations (rules : Reader) (allowsRecord : Bool) (least : Nat) (left : Syntax) :
    Nat → Parser Syntax
  | 0 => return left
  | fuel + 1 => do
      let code ← get
      if isRange left then return left
      match operatorAt? code with
      | some (operator, level) =>
          if level < least then return left
          else if level == comparisonLevel && isComparison left then
            refuse "comparison operators cannot be chained"
          else
            mark operator
            let right ← rightOperand rules allowsRecord level
            let whole := .binary left (String.ofList operator) right
            operations rules allowsRecord least whole fuel
      | none =>
          if assignmentLevel ≥ least && atAssignment code then
            mark ['=']
            let value ← rightOperand rules allowsRecord assignmentLevel
            operations rules allowsRecord least (.assignment left value) fuel
          else if rangeLevel ≥ least && code.atMark ['.', '.'] then
            let range ← rangeFrom rules allowsRecord (some left)
            operations rules allowsRecord least range fuel
          else if castLevel ≥ least && code.atWord "as" then
            let cast ← castFrom rules left
            operations rules allowsRecord least cast fuel
          else return left

def operation (rules : Reader) (allowsRecord : Bool) (left : Syntax) (least : Nat) :
    Parser Syntax :=
  bounded (operations rules allowsRecord least left)

def expression (rules : Reader) (allowsRecord : Bool) : Parser Syntax := do
  let operand ← rules (.operand allowsRecord)
  rules (.operation allowsRecord operand loosest)

def arguments (rules : Reader) : Parser (List Syntax) :=
  within .parenthesis (commaList (rules (.expression true)))

/-- The positions in a literal such as `0.1`, and whether a point ends it. -/
def positions? (literal : String) : Option (List String × Bool) := do
  let endsInPoint := literal.endsWith "."
  let body := if endsInPoint then String.ofList literal.toList.dropLast else literal
  return (← (body.splitOn ".").mapM position?, endsInPoint)

def namedAccess (rules : Reader) (base : Syntax) : Parser Syntax := do
  if ← acceptsWord "await" then return .awaited base
  let isNamed ← looksAt Code.atName
  let text ← member
  if isNamed && (← looksAt (·.atMark [':', ':'])) then
    let generics ← genericArguments rules
    return .methodCall base (.genericSegment true text generics) (← arguments rules)
  else if isNamed && (← looksAt (·.atGroup .parenthesis)) then
    return .methodCall base (.segment text) (← arguments rules)
  else return .field base text

def access (rules : Reader) (base : Syntax) : Parser Syntax := do
  mark ['.']
  match ← get with
  | .literal text :: code =>
      match positions? text with
      | some (parts, endsInPoint) =>
          set code
          let base := parts.foldl Syntax.field base
          if endsInPoint then namedAccess rules base else return base
      | none => refuse "expected unsuffixed integer"
  | _ => namedAccess rules base

def trailers (rules : Reader) (base : Syntax) : Nat → Parser Syntax
  | 0 => return base
  | fuel + 1 => do
      let code ← get
      if code.atGroup .parenthesis then
        trailers rules (.call base (← arguments rules)) fuel
      else if code.atPoint && !isRange base then
        trailers rules (← access rules base) fuel
      else if code.atGroup .bracket then
        let position ← within .bracket (rules (.expression true))
        trailers rules (.index base position) fuel
      else if code.atMark ['?'] && !isRange base then
        mark ['?']
        trailers rules (.attempted base) fuel
      else return base

def withTrailers (rules : Reader) (base : Syntax) : Parser Syntax :=
  bounded (trailers rules base)

def blockParts (rules : Reader) (allowsAttributes : Bool) :
    Parser (List Syntax × List Syntax) := do
  match ← rules (.block allowsAttributes) with
  | .block _ attributes statements => return (attributes, statements)
  | _ => expect ["curly braces"]

def keywordBlock (rules : Reader) (keyword : String) (allowsAttributes : Bool) :
    Parser Syntax := do
  let (attributes, statements) ← blockParts rules allowsAttributes
  return .keywordBlock keyword attributes statements

def otherwises (rules : Reader) : Nat → Parser (Option Syntax)
  | 0 => expect ["`if`", "curly braces"]
  | fuel + 1 => do
      if ← acceptsWord "else" then
        if ← acceptsWord "if" then
          let condition ← rules (.expression false)
          let (_, statements) ← blockParts rules false
          return some (.otherwise (some condition) statements (← otherwises rules fuel))
        else if ← looksAt (·.atGroup .brace) then
          let (_, statements) ← blockParts rules false
          return some (.otherwise none statements none)
        else expect ["`if`", "curly braces"]
      else return none

def conditional (rules : Reader) : Parser Syntax := do
  word "if"
  let condition ← rules (.expression false)
  let (_, statements) ← blockParts rules false
  return .conditional condition statements (← bounded (otherwises rules))

def whileLoop (rules : Reader) (label : String) : Parser Syntax := do
  word "while"
  let condition ← rules (.expression false)
  let (attributes, statements) ← blockParts rules true
  return .whileLoop label condition attributes statements

def forLoop (rules : Reader) (label : String) : Parser Syntax := do
  word "for"
  let pattern ← alternatives rules
  word "in"
  let iterated ← rules (.expression false)
  let (attributes, statements) ← blockParts rules true
  return .forLoop label pattern iterated attributes statements

def endlessLoop (rules : Reader) (label : String) : Parser Syntax := do
  word "loop"
  let (attributes, statements) ← blockParts rules true
  return .loop label attributes statements

def labelled (rules : Reader) : Parser Syntax := do
  let label := (← lifetime) ++ ": "
  mark [':']
  let code ← get
  if code.atWord "while" then whileLoop rules label
  else if code.atWord "for" then forLoop rules label
  else if code.atWord "loop" then endlessLoop rules label
  else if code.atGroup .brace then
    let (attributes, statements) ← blockParts rules true
    return .block label attributes statements
  else expect ["loop or block expression"]

/-- The expression that a body stands for: a block of one expression is that expression. -/
def simplifiedBody : Syntax → Syntax
  | .block "" [] [.statement expression false] => simplifiedBody expression
  | .tuple [] _ => .block "" [] []
  | body => body

/-- An arm; a block that is its body stays one if it has attributes, but loses them. -/
def armOf (pattern : Syntax) (guard : Option Syntax) (body : Syntax) : Syntax :=
  match simplifiedBody body with
  | .block label attributes statements | .attributed _ (.block label attributes statements) =>
      .blockArm pattern guard label attributes statements
  | body => .arm pattern guard body

def selectionArm (rules : Reader) : Parser Syntax := do
  let attributes ← outerAttributes rules
  let pattern ← alternatives rules
  let guard ← if ← acceptsWord "if" then pure (some (← rules (.expression true))) else pure none
  mark ['=', '>']
  let body ← rules .arm
  if body.endsArmWithComma && !(← isAtEnd) then mark [','] else discard (accepts [','])
  return .withAttributes attributes (armOf pattern guard body)

def selectionContent (rules : Reader) : Parser (List Syntax × List Syntax) := do
  let attributes ← innerAttributes rules
  let arms ← many (!·.isEmpty) (selectionArm rules)
  return (attributes, arms)

def selection (rules : Reader) : Parser Syntax := do
  word "match"
  let scrutinee ← rules (.expression false)
  let (attributes, arms) ← within .brace (selectionContent rules)
  return .selection scrutinee attributes arms

def closureInput (rules : Reader) : Parser Syntax := do
  let attributes ← outerAttributes rules
  let pattern ← rules .pattern
  let input ←
    if ← accepts [':'] then pure (.joined pattern ": " (← rules (.type true))) else pure pattern
  return .withAttributes attributes input

def closure (rules : Reader) (allowsRecord : Bool) : Parser Syntax := do
  let quantified ← quantifier rules
  let constancy ← optionalWord "const"
  let immobility ← optionalWord "static"
  let asynchrony ← optionalWord "async"
  let capture ← optionalWord "move"
  mark ['|']
  let inputs ← list (·.atMark ['|']) (closureInput rules)
  mark ['|']
  let keywords := constancy ++ immobility ++ asynchrony ++ capture
  match ← output rules true with
  | some type =>
      let (_, statements) ← blockParts rules false
      return .withQuantifier quantified
        (.closure keywords inputs (some type) (.block "" [] statements))
  | none =>
      return .withQuantifier quantified
        (.closure keywords inputs none (← rules (.expression allowsRecord)))

def fieldValue (rules : Reader) : Parser Syntax := do
  let attributes ← outerAttributes rules
  let isNamed ← looksAt Code.atName
  let text ← member
  let field ←
    if !isNamed || (← looksAt (·.atMark [':'])) then
      mark [':']
      pure (.fieldValue text (← rules (.expression true)))
    else pure (.word text)
  return .withAttributes attributes field

def fieldValues (rules : Reader) : Nat → Parser (List Syntax × Option Syntax)
  | 0 => expect ["identifier or integer"]
  | fuel + 1 => do
      if ← isAtEnd then return ([], none)
      if ← accepts ['.', '.'] then
        return ([], ← onlyAt (!·.isEmpty) (rules (.expression true)))
      let field ← fieldValue rules
      if ← isAtEnd then return ([field], none)
      mark [',']
      let (rest, remainder) ← fieldValues rules fuel
      return (field :: rest, remainder)

def namedExpression (rules : Reader) (allowsRecord : Bool) : Parser Syntax := do
  let named ← path rules true
  let code ← get
  match named, named.isPlainPath && code.atBang with
  | .path isGlobal names, true =>
      mark ['!']
      let (delimiter, content) ← anyGroup
      return .macroCall (pathText isGlobal names) none delimiter content
  | _, _ =>
      if allowsRecord && code.atGroup .brace then
        let (fields, remainder) ← within .brace (bounded (fieldValues rules))
        return .record named fields remainder
      else return named

def parenthesizedExpressions (rules : Reader) : Parser Syntax := do
  if ← isAtEnd then return .tuple [] true
  let first ← rules (.expression true)
  if ← isAtEnd then return .parenthesized first
  mark [',']
  return .tuple (first :: (← commaList (rules (.expression true)))) true

def bracketedExpressions (rules : Reader) : Parser Syntax := do
  if ← isAtEnd then return .array []
  let first ← rules (.expression true)
  if ← accepts [';'] then return .repeated first (← rules (.expression true))
  if ← isAtEnd then return .array [first]
  if !(← accepts [',']) then refuse "expected `,` or `;`"
  return .array (first :: (← commaList (rules (.expression true))))

def breaking (rules : Reader) (allowsRecord : Bool) : Parser Syntax := do
  word "break"
  let code ← get
  let keyword ←
    if code.atLifetime then
      if code.next.atMark [':'] then refuse "parentheses required"
      else pure ("break " ++ (← lifetime))
    else pure "break"
  let atValue (code : Code) := atBegin code && (allowsRecord || !code.atGroup .brace)
  return .jump keyword (← onlyAt atValue (rules (.expression true)))

def jumping (rules : Reader) (keyword : String) : Parser Syntax := do
  word keyword
  return .jump keyword (← onlyAt atBegin (rules (.expression true)))

def continuing : Parser Syntax := do
  word "continue"
  if ← looksAt Code.atLifetime then return .jump ("continue " ++ (← lifetime)) none
  else return .jump "continue" none

/-- A pattern that is compared with a value where a condition stands. -/
def binder (rules : Reader) (allowsRecord : Bool) : Parser Syntax := do
  word "let"
  let pattern ← alternatives rules
  mark ['=']
  let operand ← rules (.operand allowsRecord)
  return .binder pattern (← rules (.operation allowsRecord operand comparisonLevel))

def atClosure (code : Code) : Bool :=
  let following := code.next
  code.atMark ['|'] || code.atWord "move" || code.atWord "static" ||
    code.atWord "for" && declaresParameters following ||
    code.atWord "const" && !following.atGroup .brace ||
    code.atWord "async" && (following.atMark ['|'] || following.atWord "move")

def atAsyncBlock (code : Code) : Bool :=
  let following := code.next
  code.atWord "async" && (following.atGroup .brace ||
    following.atWord "move" && following.next.atGroup .brace)

def asyncBlock (rules : Reader) : Parser Syntax := do
  word "async"
  let capture ← optionalWord "move"
  keywordBlock rules ("async " ++ capture) false

/-- An expression that operators and accesses can only follow. -/
def atom (rules : Reader) (allowsRecord : Bool) : Parser Syntax := do
  let code ← get
  let following := code.next
  if code.atLiteral then literal
  else if atAsyncBlock code then asyncBlock rules
  else if code.atWord "try" && following.atGroup .brace then
    skip 1
    keywordBlock rules "try " false
  else if atClosure code then closure rules allowsRecord
  else if atPath code ||
      code.atWord "try" && (following.atMark ['!'] || following.atMark [':', ':']) then
    namedExpression rules allowsRecord
  else if code.atGroup .parenthesis then within .parenthesis (parenthesizedExpressions rules)
  else if code.atWord "break" then breaking rules allowsRecord
  else if code.atWord "continue" then continuing
  else if code.atWord "return" then jumping rules "return"
  else if code.atGroup .bracket then within .bracket (bracketedExpressions rules)
  else if code.atWord "let" then binder rules allowsRecord
  else if code.atWord "if" then conditional rules
  else if code.atWord "while" then whileLoop rules ""
  else if code.atWord "for" then forLoop rules ""
  else if code.atWord "loop" then endlessLoop rules ""
  else if code.atWord "match" then selection rules
  else if code.atWord "yield" then jumping rules "yield"
  else if code.atWord "unsafe" || code.atWord "const" then
    let keyword ← anyWord
    keywordBlock rules (keyword ++ " ") true
  else if code.atGroup .brace then rules (.block true)
  else if code.atMark ['.', '.'] then rangeFrom rules allowsRecord none
  else if code.atWord "_" then
    skip 1
    return .word "_"
  else if code.atLifetime then labelled rules
  else expect ["an expression"]

def referenceMark : Parser String := do
  mark ['&']
  if ← looksAt fun code => code.atWord "raw" && code.next.atOneOf ["mut", "const"] then
    skip 1
    return "&raw " ++ (← anyWord) ++ " "
  else return "&" ++ (← optionalWord "mut")

def operand (rules : Reader) (allowsRecord : Bool) : Parser Syntax := do
  let attributes ← outerAttributes rules
  let code ← get
  match code with
  | .punct '&' _ :: _ =>
      let mark ← referenceMark
      return .withAttributes attributes (.prefixed mark (← rules (.operand allowsRecord)))
  | .punct '*' _ :: _ | .punct '!' _ :: _ | .punct '-' _ :: _ =>
      let mark := if code.atMark ['*'] then "*" else if code.atMark ['!'] then "!" else "-"
      skip 1
      return .withAttributes attributes (.prefixed mark (← rules (.operand allowsRecord)))
  | _ =>
      let base ← withTrailers rules (← atom rules allowsRecord)
      if isRange base && !attributes.isEmpty then
        refuse "attributes are not allowed on range expressions starting with `..`"
      else return .withAttributes attributes base

def atBlockLike (code : Code) : Bool :=
  let following := code.next
  code.atOneOf ["if", "while", "loop", "match", "unsafe"] || code.atGroup .brace ||
    code.atLifetime || code.atWord "for" && !declaresParameters following ||
    (code.atWord "try" || code.atWord "const") && following.atGroup .brace

/-- An expression where a statement or the body of an arm stands: one that ends in a block of
its own goes on only with an access. -/
def armBody (rules : Reader) : Parser Syntax := do
  let attributes ← outerAttributes rules
  if ← looksAt atBlockLike then
    let base ← atom rules true
    if ← looksAt fun code => code.atPoint || code.atMark ['?'] then
      let base ← withTrailers rules base
      rules (.operation true (.withAttributes attributes base) loosest)
    else return .withAttributes attributes base
  else
    let operand ← rules (.operand true)
    rules (.operation true (.withAttributes attributes operand) loosest)

end ProviderForge.Grammar

import ProviderForge.Grammar.Expression

namespace ProviderForge.Grammar

open ProviderForge.Parser

/-- Gives the attributes of a statement to the expression at its left end. -/
def attachLeft (attributes : List Syntax) : Syntax → Syntax
  | .assignment left right => .assignment (attachLeft attributes left) right
  | .binary left operator right => .binary (attachLeft attributes left) operator right
  | .cast value type => .cast (attachLeft attributes value) type
  | .attributed inner node => .attributed (attributes ++ inner) node
  | node => .withAttributes attributes node

def binding (rules : Reader) : Parser Syntax := do
  word "let"
  let bound ← rules .pattern
  let pattern ←
    if ← accepts [':'] then pure (.joined bound ": " (← rules (.type true))) else pure bound
  let node ←
    if ← accepts ['='] then
      let value ← rules (.expression true)
      if !value.endsInBrace && (← acceptsWord "else") then
        let (_, statements) ← blockParts rules false
        pure (.binding pattern (some value) (some (.block "" [] statements)))
      else pure (.binding pattern (some value) none)
    else pure (.binding pattern none none)
  mark [';']
  return node

def isBraceMacro : Syntax → Bool
  | .macroCall _ _ .brace _ => true
  | .attributed _ (.macroCall _ _ .brace _) => true
  | _ => false

def isMacro : Syntax → Bool
  | .macroCall .. => true
  | .attributed _ (.macroCall ..) => true
  | _ => false

/-- The path, without the braces and what they hold, of a macro call that is a statement of its
own, and whether the code defines something by a macro. -/
inductive MacroUse
  | statement
  | item
  | none

def macroUse (code : Code) : MacroUse :=
  match plainPath code with
  | .ok (_, rest) =>
      let following := rest.next
      let third := following.next
      if !rest.atMark ['!'] then .none
      else if following.atName || following.atWord "try" then .item
      else if following.atGroup .brace && !(third.atPoint || third.atMark ['?']) then .statement
      else .none
  | .error _ => .none

def atItem (code : Code) : Bool :=
  let second := code.next
  let third := second.next
  code.atOneOf ["pub", "extern", "use", "fn", "mod", "type", "struct", "enum", "trait", "impl",
    "macro"] ||
    code.atWord "crate" && !second.atMark [':', ':'] ||
    code.atWord "static" && (second.atWord "mut" || second.atName) ||
    code.atWord "const" && !(second.atGroup .brace || second.atWord "static" ||
      second.atWord "async" && !third.atOneOf ["unsafe", "extern", "fn"] ||
      second.atWord "move" || second.atMark ['|']) ||
    code.atWord "unsafe" && !second.atGroup .brace ||
    code.atWord "async" && second.atOneOf ["unsafe", "extern", "fn"] ||
    code.atWord "union" && second.atName ||
    code.atWord "auto" && second.atWord "trait" ||
    code.atWord "default" && second.atOneOf ["unsafe", "impl"]

def expressionStatement (rules : Reader) (attributes : List Syntax) : Parser Syntax := do
  let expression := attachLeft attributes (← rules .arm)
  let isTerminated ← accepts [';']
  if isMacro expression && (isTerminated || isBraceMacro expression) then
    return .macroStatement expression isTerminated
  else return .statement expression isTerminated

def statement (rules : Reader) : Parser Syntax := do
  let start ← get
  let attributes ← outerAttributes rules
  let code ← get
  match macroUse code with
  | .statement =>
      let path ← plainPath
      mark ['!']
      let (delimiter, content) ← anyGroup
      let isTerminated ← accepts [';']
      return .macroStatement
        (.withAttributes attributes (.macroCall path none delimiter content)) isTerminated
  | .item =>
      set start
      rules .item
  | .none =>
      if code.atWord "let" then return .withAttributes attributes (← binding rules)
      else if atItem code then
        set start
        rules .item
      else expressionStatement rules attributes

def needsSemicolon : Syntax → Bool
  | .statement expression false => expression.endsStatementWithSemicolon
  | .macroStatement call false => !isBraceMacro call
  | _ => false

def statementList (rules : Reader) : Nat → Parser (List Syntax)
  | 0 => expect ["`;`"]
  | fuel + 1 => do
      if ← isAtEnd then return []
      if ← accepts [';'] then return .emptyStatement :: (← statementList rules fuel)
      let first ← statement rules
      if ← isAtEnd then return [first]
      if needsSemicolon first then refuse "unexpected token, expected `;`"
      else return first :: (← statementList rules fuel)

def blockContent (rules : Reader) (allowsAttributes : Bool) : Parser Syntax := do
  let attributes ← if allowsAttributes then innerAttributes rules else pure []
  let statements ← bounded (statementList rules)
  return .block "" attributes statements

def block (rules : Reader) (allowsAttributes : Bool) : Parser Syntax :=
  within .brace (blockContent rules allowsAttributes)

end ProviderForge.Grammar

import ProviderForge.Grammar.Fault
import ProviderForge.Syntax.Basic

namespace ProviderForge

namespace Token

def keywords : List String := [
  "_", "abstract", "as", "async", "await", "become", "box", "break", "const", "continue",
  "crate", "do", "dyn", "else", "enum", "extern", "false", "final", "fn", "for", "if", "impl",
  "in", "let", "loop", "macro", "match", "mod", "move", "mut", "override", "priv", "pub", "ref",
  "return", "Self", "self", "static", "struct", "super", "trait", "true", "try", "type",
  "typeof", "unsafe", "unsized", "use", "virtual", "where", "while", "yield"]

def isName (text : String) : Bool :=
  !keywords.contains text

end Token

namespace Code

/-- Whether the code begins with the operator that these characters spell. What follows may
make a longer operator of it. -/
def atMark : List Char → Code → Bool
  | [], _ => true
  | [last], .punct character _ :: _ => last == character
  | first :: rest, .punct character .joint :: code => first == character && atMark rest code
  | _, _ => false

def atWord (word : String) : Code → Bool
  | .ident text :: _ => text == word
  | _ => false

def atAnyWord : Code → Bool
  | .ident _ :: _ => true
  | _ => false

def atName : Code → Bool
  | .ident text :: _ => Token.isName text
  | _ => false

def atOneOf (words : List String) : Code → Bool
  | .ident text :: _ => words.contains text
  | _ => false

def atGroup (delimiter : Delimiter) : Code → Bool
  | .group found _ :: _ => found == delimiter
  | _ => false

def atLifetime : Code → Bool
  | .punct '\'' .joint :: .ident _ :: _ => true
  | _ => false

def isNumber (literal : String) : Bool :=
  match literal.toList with
  | first :: _ => '0' ≤ first && first ≤ '9'
  | [] => false

/-- A literal; a truth value and a negative number are literals too. -/
def atLiteral : Code → Bool
  | .literal _ :: _ => true
  | .ident text :: _ => text == "true" || text == "false"
  | .punct '-' _ :: .literal text :: _ => isNumber text
  | _ => false

def atText : Code → Bool
  | .literal text :: _ => (text.startsWith "\"" || text.startsWith "r\"" || text.startsWith "r#")
  | _ => false

/-- The code behind its first token. A lifetime is one token. -/
def next : Code → Code
  | .punct '\'' .joint :: .ident _ :: code => code
  | _ :: code => code
  | [] => []

/-- A point that is not the first of a range operator. -/
def atPoint (code : Code) : Bool :=
  code.atMark ['.'] && !code.atMark ['.', '.']

def atColon (code : Code) : Bool :=
  code.atMark [':'] && !code.atMark [':', ':']

def atBang (code : Code) : Bool :=
  code.atMark ['!'] && !code.atMark ['!', '=']

def atBar (code : Code) : Bool :=
  code.atMark ['|'] && !code.atMark ['|', '|'] && !code.atMark ['|', '=']

def atPathStart (code : Code) : Bool :=
  code.atName || code.atOneOf ["super", "self", "Self", "crate"]

end Code

abbrev Parser := StateT Code (Except SyntaxFault)

/-- The rules that call one another. -/
inductive Rule
  | type (allowsPlus : Bool)
  /-- A bound, which can tell what the type captures only where that is allowed. -/
  | bound (allowsCapture : Bool)
  | pattern
  | expression (allowsRecord : Bool)
  /-- An expression without binary operators. -/
  | operand (allowsRecord : Bool)
  /-- The operators behind `left` that bind at least as strongly as `least`. -/
  | operation (allowsRecord : Bool) (left : Syntax) (least : Nat)
  /-- The arm or the statement that stands here: it ends where a block of its own ends. -/
  | arm
  | block (allowsAttributes : Bool)
  | item
  | importTree

abbrev Reader := Rule → Parser Syntax

namespace Parser

def refuse (reason : String) : Parser α :=
  throw (.refused reason)

def looksAt (condition : Code → Bool) : Parser Bool := do
  return condition (← get)

def isAtEnd : Parser Bool :=
  looksAt (·.isEmpty)

/-- Refuses what stands here, where one of the `choices` has to stand. -/
def expect (choices : List String) : Parser α := do
  throw (.expected choices (← isAtEnd))

def skip (count : Nat) : Parser Unit :=
  modify (·.drop count)

def mark (characters : List Char) : Parser Unit := do
  if ← looksAt (·.atMark characters) then skip characters.length
  else throw (.expected ["`" ++ String.ofList characters ++ "`"] false)

def accepts (characters : List Char) : Parser Bool := do
  if ← looksAt (·.atMark characters) then
    skip characters.length
    return true
  else return false

def word (text : String) : Parser Unit := do
  if ← looksAt (·.atWord text) then skip 1 else expect ["`" ++ text ++ "`"]

def acceptsWord (text : String) : Parser Bool := do
  if ← looksAt (·.atWord text) then
    skip 1
    return true
  else return false

/-- The word and a space if it stands here, and nothing otherwise. -/
def optionalWord (text : String) : Parser String := do
  return if ← acceptsWord text then text ++ " " else ""

def anyWord : Parser String := do
  match ← get with
  | .ident text :: code =>
      set code
      return text
  | _ => expect ["identifier"]

def name : Parser String := do
  match ← get with
  | .ident text :: code =>
      if Token.isName text then
        set code
        return text
      else refuse ("expected identifier, found keyword `" ++ text ++ "`")
  | _ => expect ["identifier"]

def lifetime : Parser String := do
  match ← get with
  | .punct '\'' .joint :: .ident text :: code =>
      set code
      return "'" ++ text
  | _ => expect ["lifetime"]

def literal : Parser Syntax := do
  if ← looksAt (·.atLiteral) then
    match ← get with
    | .literal text :: code | .ident text :: code =>
        set code
        return .literal text
    | .punct _ _ :: .literal text :: code =>
        set code
        return .literal ("-" ++ text)
    | _ => expect ["literal"]
  else expect ["literal"]

def group (delimiter : Delimiter) : Parser Code := do
  match ← get with
  | .group found content :: code =>
      if found == delimiter then
        set code
        return content
      else expect [groupName delimiter]
  | _ => expect [groupName delimiter]
where
  groupName : Delimiter → String
    | .parenthesis => "parentheses"
    | .brace => "curly braces"
    | .bracket => "square brackets"

def anyGroup : Parser (Delimiter × Code) := do
  match ← get with
  | .group delimiter content :: code =>
      set code
      return (delimiter, content)
  | _ => expect ["delimiter"]

def whole (parser : Parser α) (delimiter : Delimiter) (code : Code) : Except SyntaxFault α := do
  match ← parser code with
  | (value, []) => return value
  | _ => throw (.unexpected delimiter)

def preview (parser : Parser α) : Parser (Option (α × Code)) := do
  return (parser (← get)).toOption

def within (delimiter : Delimiter) (parser : Parser α) : Parser α := do
  let content ← group delimiter
  match parser.whole delimiter content with
  | .ok value => return value
  | .error fault => throw fault

/-- Gives the parser a number that no count of tokens here reaches. -/
def bounded (parser : Nat → Parser α) : Parser α := do
  parser ((← get).length + 1)

def repeated (continues : Code → Bool) (parser : Parser α) : Nat → Parser (List α)
  | 0 => return []
  | fuel + 1 => do
      if ← looksAt continues then
        let first ← parser
        let rest ← repeated continues parser fuel
        return first :: rest
      else return []

def many (continues : Code → Bool) (parser : Parser α) : Parser (List α) :=
  bounded (repeated continues parser)

/-- Elements with `separator` between them, and perhaps behind the last one, up to the place
where `stops` holds. -/
def repeatedList (stops : Code → Bool) (separator : List Char) (parser : Parser α) :
    Nat → Parser (List α)
  | 0 => return []
  | fuel + 1 => do
      if ← looksAt stops then return []
      let first ← parser
      if ← looksAt stops then return [first]
      mark separator
      let rest ← repeatedList stops separator parser fuel
      return first :: rest

def list (stops : Code → Bool) (parser : Parser α) : Parser (List α) :=
  bounded (repeatedList stops [','] parser)

def commaList (parser : Parser α) : Parser (List α) :=
  list (·.isEmpty) parser

/-- Elements with `separator` between each two; a separator may end them where `stops` holds. -/
def repeatedChain (stops : Code → Bool) (separator : List Char) (parser : Parser α) :
    Nat → Parser (List α)
  | 0 => return []
  | fuel + 1 => do
      if ← looksAt stops then return []
      let first ← parser
      if ← accepts separator then
        let rest ← repeatedChain stops separator parser fuel
        return first :: rest
      else return [first]

def chain (stops : Code → Bool) (separator : List Char) (parser : Parser α) :
    Parser (List α) :=
  bounded (repeatedChain stops separator parser)

def onlyAt (condition : Code → Bool) (parser : Parser α) : Parser (Option α) := do
  if ← looksAt condition then return some (← parser) else return none

end Parser

namespace Syntax

def withAttributes (attributes : List Syntax) (node : Syntax) : Syntax :=
  if attributes.isEmpty then node else .attributed attributes node

def withQuantifier (parameters : Option (List Syntax)) (node : Syntax) : Syntax :=
  match parameters with
  | some parameters => .quantified parameters node
  | none => node

end Syntax

end ProviderForge

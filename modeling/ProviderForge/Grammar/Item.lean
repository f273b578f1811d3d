import ProviderForge.Grammar.Generic
import ProviderForge.Grammar.Statement

namespace ProviderForge.Grammar

open ProviderForge.Parser

/-- Who may use an item: the text before it, or nothing. Parentheses behind `pub` that hold no
place belong to what follows. -/
def visibility : Parser String := do
  if ← acceptsWord "pub" then
    match ← get with
    | .group .parenthesis content :: code =>
        match content with
        | [.ident place] =>
            if ["crate", "self", "super"].contains place then
              set code
              return "pub(" ++ place ++ ") "
            else return "pub "
        | .ident "in" :: place =>
            match plainPath.whole .parenthesis place with
            | .ok path =>
                set code
                return "pub(" ++ restriction path ++ ") "
            | .error fault => throw fault
        | _ => return "pub "
    | _ => return "pub "
  else return ""
where
  restriction (path : String) : String :=
    if ["crate", "self", "super"].contains path then path else "in " ++ path

def functionKeywords : Parser String := do
  let constancy ← optionalWord "const"
  let asynchrony ← optionalWord "async"
  let safety ← optionalWord "unsafe"
  let convention ← convention
  word "fn"
  return constancy ++ asynchrony ++ safety ++ convention ++ "fn "

def atFunction (code : Code) : Bool :=
  (functionKeywords code).toOption.isSome

def receiver (rules : Reader) : Parser Syntax := do
  let reference ←
    if ← accepts ['&'] then
      let name ← if ← looksAt Code.atLifetime then pure ((← lifetime) ++ " ") else pure ""
      pure ("&" ++ name)
    else pure ""
  let mutability ← optionalWord "mut"
  word "self"
  if ← looksAt (·.atMark [':', ':']) then refuse "a receiver is no path"
  let text := reference ++ mutability ++ "self"
  if reference.isEmpty && (← accepts [':']) then
    return .joined (.word text) ": " (← rules (.type true))
  else return .word text

/-- A parameter, or one that stands for any more of them. A generic type alone is that of a
parameter without a name. -/
def input (rules : Reader) : Parser (Syntax × Bool) := do
  if ← looksAt fun code => code.atName && code.next.atMark ['<'] then
    return (.joined (.word "_") ": " (← rules (.type true)), false)
  let pattern ← rules .pattern
  mark [':']
  if ← accepts ['.', '.', '.'] then return (.joined pattern ": " (.word "..."), true)
  else return (.joined pattern ": " (← rules (.type true)), false)

/-- The parameters from `first` on, where `others` reads those behind the next comma. -/
def laterInputs (others : Parser (List Syntax × Option Syntax)) (first : Syntax) :
    Parser (List Syntax × Option Syntax) := do
  if ← isAtEnd then return ([first], none)
  mark [',']
  let (rest, variadic) ← others
  return (first :: rest, variadic)

/-- The parameters from the one on that `isFirst` tells of; only the first can be a receiver. -/
def inputs (rules : Reader) (isFirst : Bool) : Nat → Parser (List Syntax × Option Syntax)
  | 0 => expect ["`,`"]
  | fuel + 1 => do
      if ← isAtEnd then return ([], none)
      let attributes ← outerAttributes rules
      if ← accepts ['.', '.', '.'] then
        if !(← isAtEnd) then mark [',']
        return ([], some (.withAttributes attributes (.word "...")))
      match ← preview (receiver rules) with
      | some (node, rest) =>
          if isFirst then
            set rest
            laterInputs (inputs rules false fuel) (.withAttributes attributes node)
          else refuse "unexpected method receiver"
      | none =>
          let (node, isVariadic) ← input rules
          let node := Syntax.withAttributes attributes node
          if isVariadic then
            if !(← isAtEnd) then mark [',']
            return ([], some node)
          else laterInputs (inputs rules false fuel) node

def signature (rules : Reader) (head : String) : Parser (Syntax × List Syntax) := do
  let keywords ← functionKeywords
  let text ← name
  let parameters ← parameters rules
  let (inputs, variadic) ← within .parenthesis (bounded (inputs rules true))
  let output ← output rules true
  let node := .signature (head ++ keywords ++ text) parameters inputs variadic output
  return (node, ← requirements rules)

/-- A function with its body; only where `mayBeDeclared` a semicolon can stand for the body. -/
def function (rules : Reader) (head : String) (mayBeDeclared : Bool) : Parser Syntax := do
  let (node, required) ← signature rules head
  if mayBeDeclared && (← accepts [';']) then return .functionDeclaration node required
  else
    let (attributes, statements) ← blockParts rules true
    return .function node required attributes statements

def optionalValue (rules : Reader) : Parser (Option Syntax) := do
  if ← accepts ['='] then return some (← rules (.expression true)) else return none

def constant (rules : Reader) (head : String) (mayBeDeclared : Bool) : Parser Syntax := do
  word "const"
  let text ← if ← acceptsWord "_" then pure "_" else name
  mark [':']
  let type ← rules (.type true)
  let value ← optionalValue rules
  mark [';']
  if value.isNone && !mayBeDeclared then expect ["`=`"]
  else return .constantItem (head ++ "const " ++ text) type value

def static (rules : Reader) (head : String) (isDeclared : Bool) : Parser Syntax := do
  word "static"
  let mutability ← optionalWord "mut"
  let text ← name
  mark [':']
  let type ← rules (.type true)
  let value ← optionalValue rules
  mark [';']
  if value.isNone != isDeclared then expect ["`=`"]
  else return .constantItem (head ++ "static " ++ mutability ++ text) type value

def typeAlias (rules : Reader) (head : String) : Parser Syntax := do
  word "type"
  let text ← name
  let parameters ← parameters rules
  let required ← requirements rules
  mark ['=']
  let type ← rules (.type true)
  mark [';']
  return .aliasItem (head ++ "type " ++ text) parameters [] required (some type) true

def associatedType (rules : Reader) (head : String) (mayBeDeclared : Bool) : Parser Syntax := do
  word "type"
  let text ← name
  let parameters ← parameters rules
  let bounds ←
    if mayBeDeclared && (← accepts [':']) then
      chain (fun code => code.atWord "where" || code.atMark ['='] || code.atMark [';']) ['+']
        (rules (.bound false))
    else pure []
  let definition ← if ← accepts ['='] then pure (some (← rules (.type true))) else pure none
  let required ← requirements rules
  mark [';']
  if definition.isNone && !mayBeDeclared then expect ["`=`"]
  else return .aliasItem (head ++ "type " ++ text) parameters bounds required definition false

def foreignType (rules : Reader) (head : String) : Parser Syntax := do
  word "type"
  let text ← name
  let parameters ← parameters rules
  discard (requirements rules)
  mark [';']
  return .foreignType (head ++ "type " ++ text) parameters

def namedField (rules : Reader) : Parser Syntax := do
  let attributes ← outerAttributes rules
  let visibility ← visibility
  let text ← if ← acceptsWord "_" then pure "_" else name
  mark [':']
  return .withAttributes attributes
    (.prefixed (visibility ++ text ++ ": ") (← rules (.type true)))

def unnamedField (rules : Reader) : Parser Syntax := do
  let attributes ← outerAttributes rules
  let visibility ← visibility
  let type ← rules (.type true)
  return .withAttributes attributes
    (if visibility.isEmpty then type else .prefixed visibility type)

def namedFields (rules : Reader) : Parser (List Syntax) :=
  within .brace (commaList (namedField rules))

def unnamedFields (rules : Reader) : Parser (List Syntax) :=
  within .parenthesis (commaList (unnamedField rules))

def recordType (rules : Reader) (head : String) : Parser Syntax := do
  word "struct"
  let text ← name
  let head := head ++ "struct " ++ text
  let parameters ← parameters rules
  if ← looksAt (·.atGroup .parenthesis) then
    let fields ← unnamedFields rules
    let required ← requirements rules
    mark [';']
    return .tupleItem head parameters fields required
  else
    let required ← requirements rules
    if ← accepts [';'] then return .unitItem head parameters required
    else return .recordItem head parameters required (← namedFields rules)

def union (rules : Reader) (head : String) : Parser Syntax := do
  word "union"
  let text ← name
  let parameters ← parameters rules
  let required ← requirements rules
  return .recordItem (head ++ "union " ++ text) parameters required (← namedFields rules)

def variant (rules : Reader) : Parser Syntax := do
  let attributes ← outerAttributes rules
  discard visibility
  let text ← name
  let code ← get
  let shape ←
    if code.atGroup .brace then pure (.recordVariant text (← namedFields rules))
    else if code.atGroup .parenthesis then pure (.tupleVariant text (← unnamedFields rules))
    else pure (.word text)
  match ← optionalValue rules with
  | some value => return .withAttributes attributes (.joined shape " = " value)
  | none => return .withAttributes attributes shape

def enumeration (rules : Reader) (head : String) : Parser Syntax := do
  word "enum"
  let text ← name
  let parameters ← parameters rules
  let required ← requirements rules
  let variants ← within .brace (commaList (variant rules))
  return .recordItem (head ++ "enum " ++ text) parameters required variants

def importTree (rules : Reader) : Parser Syntax := do
  let code ← get
  if code.atPathStart && !code.atWord "Self" || code.atWord "try" then
    let text ← anyWord
    if ← accepts [':', ':'] then return .prefixed (text ++ "::") (← rules .importTree)
    else if ← acceptsWord "as" then
      let newName ← if ← acceptsWord "_" then pure "_" else name
      return .word (text ++ " as " ++ newName)
    else return .word text
  else if code.atMark ['*'] then
    mark ['*']
    return .word "*"
  else return .importGroup (← within .brace (commaList (rules .importTree)))

def importing (rules : Reader) (head : String) : Parser Syntax := do
  word "use"
  let isGlobal ← accepts [':', ':']
  let tree ← rules .importTree
  mark [';']
  return .importing (head ++ "use " ++ if isGlobal then "::" else "") tree

def moduleContent (rules : Reader) (member : Parser Syntax) :
    Parser (List Syntax × List Syntax) := do
  let attributes ← innerAttributes rules
  let items ← many (!·.isEmpty) member
  return (attributes, items)

def module (rules : Reader) (head : String) : Parser Syntax := do
  let safety ← optionalWord "unsafe"
  word "mod"
  let text ← if ← acceptsWord "try" then pure "try" else name
  let head := head ++ safety ++ "mod " ++ text
  if ← accepts [';'] then return .line (head ++ ";")
  else
    let (attributes, items) ← within .brace (moduleContent rules (rules .item))
    return .moduleItem (head ++ " ") attributes items

/-- A macro call that is an item; only where `mayBeNamed` it can name what it defines. -/
def macroItem (mayBeNamed : Bool) : Parser Syntax := do
  let path ← plainPath
  mark ['!']
  let atDefined (code : Code) := mayBeNamed && (code.atName || code.atWord "try")
  let name ← onlyAt atDefined anyWord
  let (delimiter, content) ← anyGroup
  if delimiter != .brace then mark [';']
  return .macroItem (.macroCall path name delimiter content)

def atMacro (code : Code) : Bool :=
  code.atPathStart && !code.atWord "Self" || code.atMark [':', ':']

def foreignItem (rules : Reader) : Parser Syntax := do
  let attributes ← outerAttributes rules
  let head ← visibility
  let code ← get
  let node ←
    if atFunction code then
      let (node, required) ← signature rules head
      mark [';']
      pure (.functionDeclaration node required)
    else if code.atWord "static" then static rules head true
    else if code.atWord "type" then foreignType rules head
    else if head.isEmpty && atMacro code then macroItem false
    else expect ["`fn`", "`static`", "`type`", "identifier", "`self`", "`super`", "`crate`", "`::`"]
  return .withAttributes attributes node

def foreignModule (rules : Reader) : Parser Syntax := do
  let safety ← optionalWord "unsafe"
  let convention ← convention
  let (attributes, items) ← within .brace (moduleContent rules (foreignItem rules))
  return .moduleItem (safety ++ convention) attributes items

def externalCrate (head : String) : Parser Syntax := do
  word "extern"
  word "crate"
  let text ← if ← acceptsWord "self" then pure "self" else name
  let renamed ←
    if ← acceptsWord "as" then
      let newName ← if ← acceptsWord "_" then pure "_" else name
      pure (" as " ++ newName)
    else pure ""
  mark [';']
  return .line (head ++ "extern crate " ++ text ++ renamed ++ ";")

def traitMember (rules : Reader) : Parser Syntax := do
  let attributes ← outerAttributes rules
  let code ← get
  let node ←
    if atFunction code then function rules "" true
    else if code.atWord "const" then constant rules "" true
    else if code.atWord "type" then associatedType rules "" true
    else if atMacro code && !code.atWord "default" then macroItem false
    else expect ["`fn`", "`const`", "`type`", "identifier", "`self`", "`super`", "`crate`", "`::`"]
  return .withAttributes attributes node

def trait (rules : Reader) (head : String) : Parser Syntax := do
  let safety ← optionalWord "unsafe"
  let automatic ← optionalWord "auto"
  word "trait"
  let text ← name
  let head := head ++ safety ++ automatic ++ "trait " ++ text
  let parameters ← parameters rules
  let mayBeAlias := safety.isEmpty && automatic.isEmpty
  if mayBeAlias && (← accepts ['=']) then
    let bounds ←
      chain (fun code => code.atWord "where" || code.atMark [';']) ['+'] (rules (.bound false))
    let required ← requirements rules
    mark [';']
    return .traitAlias head parameters bounds required
  else
    let supertraits ←
      if ← accepts [':'] then
        chain (fun code => code.atWord "where" || code.atGroup .brace) ['+']
          (rules (.bound false))
      else pure []
    let required ← requirements rules
    let (attributes, items) ← within .brace (moduleContent rules (traitMember rules))
    return .traitItem head parameters supertraits required attributes items

def implementationMember (rules : Reader) : Parser Syntax := do
  let attributes ← outerAttributes rules
  let visibility ← visibility
  let isDefault ← looksAt fun code => code.atWord "default" && !code.next.atMark ['!']
  let priority ← if isDefault then optionalWord "default" else pure ""
  let head := visibility ++ priority
  let code ← get
  let node ←
    if atFunction code then function rules head false
    else if code.atWord "const" then constant rules head false
    else if code.atWord "type" then associatedType rules head false
    else if head.isEmpty && atMacro code then macroItem false
    else expect ["`default`", "`fn`", "`const`", "`type`", "identifier", "`self`", "`super`",
      "`crate`", "`::`"]
  return .withAttributes attributes node

def implementation (rules : Reader) : Parser Syntax := do
  let priority ← optionalWord "default"
  let safety ← optionalWord "unsafe"
  word "impl"
  let parameters ← if ← looksAt declaresParameters then parameters rules else pure []
  let isNegative ← looksAt fun code => code.atMark ['!'] && !code.next.atGroup .brace
  if isNegative then mark ['!']
  let first ← rules (.type true)
  let (contract, owner) ←
    if ← acceptsWord "for" then
      match first with
      | .path .. =>
          let named := if isNegative then .prefixed "!" first else first
          pure (some named, ← rules (.type true))
      | _ => refuse "expected trait path"
    else if isNegative then refuse "inherent impls cannot be negative"
    else pure (none, first)
  let required ← requirements rules
  let (attributes, items) ← within .brace (moduleContent rules (implementationMember rules))
  return .implementation (priority ++ safety ++ "impl") parameters contract owner required
    attributes items

def itemStarts : List String := [
  "`fn`", "`extern`", "`use`", "`static`", "`const`", "`unsafe`", "`mod`", "`type`", "`struct`",
  "`enum`", "`union`", "`trait`", "`auto`", "`impl`", "`default`", "`macro`", "identifier",
  "`self`", "`super`", "`crate`", "`::`"]

def itemBody (rules : Reader) : Parser Syntax := do
  let start ← get
  let head ← visibility
  let code ← get
  let second := code.next
  if atFunction code then function rules head false
  else if code.atWord "extern" then
    if second.atWord "crate" then externalCrate head
    else if head.isEmpty then foreignModule rules
    else expect ["`crate`"]
  else if code.atWord "use" then importing rules head
  else if code.atWord "static" then static rules head false
  else if code.atWord "const" then constant rules head false
  else if code.atWord "unsafe" then
    if second.atWord "trait" || second.atWord "auto" && second.next.atWord "trait" then
      trait rules head
    else if second.atWord "impl" && head.isEmpty then implementation rules
    else if second.atWord "extern" && head.isEmpty then foreignModule rules
    else if second.atWord "mod" then module rules head
    else
      skip 1
      expect ["`trait`", "`auto`", "`impl`", "`extern`", "`mod`"]
  else if code.atWord "mod" then module rules head
  else if code.atWord "type" then typeAlias rules head
  else if code.atWord "struct" then recordType rules head
  else if code.atWord "enum" then enumeration rules head
  else if code.atWord "union" && second.atName then union rules head
  else if code.atWord "trait" || code.atWord "auto" && second.atWord "trait" then
    trait rules head
  else if code.atWord "impl" || code.atWord "default" && !second.atMark ['!'] then
    if head.isEmpty then implementation rules else expect ["`fn`"]
  else if head.isEmpty && atMacro start then macroItem true
  else expect itemStarts

def item (rules : Reader) : Parser Syntax := do
  let attributes ← outerAttributes rules
  return .withAttributes attributes (← itemBody rules)

end ProviderForge.Grammar

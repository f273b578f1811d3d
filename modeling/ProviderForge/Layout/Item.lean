import ProviderForge.Layout.Comment
import ProviderForge.Layout.Expression
import ProviderForge.Layout.Tokens

namespace ProviderForge.Layout

def attributeMark (isInner : Bool) : Drawing :=
  word (if isInner then "#![" else "#[")

def «attribute» (isInner : Bool) (path : String) (arguments : Code) : Drawing :=
  attributeMark isInner ++ word path ++ attributeArguments arguments ++ word "]" ++ space

def valueAttribute (isInner : Bool) (path : String) (value : Laid) : Drawing :=
  let comment? := match value.node with
    | .literal text => attributeComment? isInner path text
    | _ => none
  comment?.getD
    (attributeMark isInner ++ word path ++ word " = " ++ value.inline ++ word "]" ++ space)

/-- An expression as a statement; where it is alone in a small block, only the expression. -/
def statement (expression : Laid) (isTerminated : Bool) (place : Place) : Drawing :=
  match place with
  | .lineStart => expression.atLineStart
  | _ =>
      let node := expression.node
      let hasSemicolon := if isTerminated then !dropsSemicolon node else takesSemicolon node
      packed 0 (expression.atLineStart ++ .only hasSemicolon (word ";")) ++ hardBreak

def macroStatement (call : Laid) (isTerminated : Bool) : Drawing :=
  call.inline ++ .only isTerminated (word ";") ++ hardBreak

/-- Whether the call defines a macro; the rules of one always stand in braces. -/
def isMacroDefinition : Syntax → Bool
  | .macroCall "macro_rules" (some _) _ _ => true
  | _ => false

/-- A macro call that stands for items ends in a semicolon or in a brace. -/
def macroItem (call : Laid) : Drawing :=
  macroStatement call (!isMacroDefinition call.node && !call.node.endsInBrace)

def binding (pattern : Laid) (value otherwise : Option Laid) : Drawing :=
  let assigned := word "let " ++ pattern.inline ++
    maybe value fun value => word " = " ++ neverBreak ++ value.inline
  (match otherwise with
    | some block =>
        packed 0 (assigned ++ space ++ word "else ") ++ neverBreak ++ block.inline
    | none => packed 0 assigned) ++
    word ";" ++ hardBreak

def parameterList (parameters : List Laid) : Drawing :=
  if parameters.isEmpty then .empty
  else
    word "<" ++ boxed 0 (zeroBreak ++ commaSeparated (lifetimesFirst parameters) ++ outdent) ++
      word ">"

def typeParameter (name : String) (bounds : List Laid) (fallback : Option Laid) : Drawing :=
  word name ++ packed indent
    (summed (word ": ") bounds ++ maybe fallback fun type => space ++ word "= " ++ type.inline)

def constraint (subject : Laid) (bounds : List Laid) : Drawing :=
  subject.inline ++ packed indent (summed (word ": ") bounds)

def requirement (subject : Laid) (bounds : List Laid) : Drawing :=
  subject.inline ++ word ":" ++
    packed (if bounds.length = 1 then 0 else indent) (summed blank bounds)

def requirementsBeforeBody (requirements : List Laid) : Drawing :=
  if requirements.isEmpty then blank
  else
    hardBreak ++ outdent ++ word "where" ++ hardBreak ++
      .all (requirements.map fun node => node.inline ++ word "," ++ hardBreak) ++ outdent

def lastEnding (between : Drawing) (isLast : Bool) : Drawing :=
  if isLast then word ";" else between

def requirementsBeforeEnd (requirements : List Laid) : Drawing :=
  if requirements.isEmpty then word ";"
  else
    hardBreak ++ outdent ++ word "where" ++ hardBreak ++
      .ended (lastEnding (word "," ++ hardBreak)) (inlines requirements)

def requirementsInLine (requirements : List Laid) : Drawing :=
  if requirements.isEmpty then blank
  else
    space ++ outdent ++ word "where" ++ space ++ .ended commaOrSpace (inlines requirements) ++
      outdent

def requirementsAtLineEnd (requirements : List Laid) : Drawing :=
  if requirements.isEmpty then word ";"
  else
    space ++ outdent ++ word "where" ++ space ++
      .ended (lastEnding (word "," ++ space)) (inlines requirements)

def itemLine (inner : Drawing) : Drawing :=
  boxed indent inner ++ hardBreak

def itemBody (head content : Drawing) : Drawing :=
  consistent indent ++ head ++ word "\x7b" ++ hardBreakIfNonempty ++ content ++ braceEnd ++
    hardBreak

def signature (head : String) (parameters inputs : List Laid) (variadic output : Option Laid) :
    Drawing :=
  word head ++ parameterList parameters ++ word "(" ++ neverBreak ++
    boxed 0 (zeroBreak ++ inputList inputs variadic ++ outdent) ++ word ")" ++
    boxed (-indent) (result output)

def function (signature : Laid) (requirements attributes statements : List Laid) : Drawing :=
  itemBody (signature.inline ++ requirementsBeforeBody requirements)
    (inOrder attributes ++ inOrder statements)

def constant (head : String) (type : Laid) (value : Option Laid) : Drawing :=
  boxed 0
    (word head ++ word ": " ++ type.inline ++
      maybe value (fun value => word " = " ++ neverBreak ++ value.inline) ++ word ";") ++
    hardBreak

def typeAlias (head : String) (parameters bounds requirements : List Laid)
    (definition : Option Laid) (isRequiredFirst : Bool) : Drawing :=
  let named := word head ++ parameterList parameters ++ summed (word ": ") bounds
  let defined (mark : String) :=
    maybe definition fun type => word mark ++ neverBreak ++ packed (-indent) type.inline
  itemLine <|
    if isRequiredFirst then named ++ requirementsInLine requirements ++ defined "= " ++ word ";"
    else named ++ defined " = " ++ requirementsAtLineEnd requirements

def foreignType (head : String) (parameters : List Laid) : Drawing :=
  boxed 0 (word head ++ parameterList parameters ++ word ";") ++ hardBreak

def recordItem (head : String) (parameters requirements fields : List Laid) : Drawing :=
  itemBody (word head ++ parameterList parameters ++ requirementsBeforeBody requirements)
    (.all (fields.map fun node => node.inline ++ word "," ++ hardBreak))

def tupleFields (fields : List Laid) : Drawing :=
  word "(" ++ zeroBreak ++ commaSeparated fields ++ outdent ++ word ")"

def tupleItem (head : String) (parameters fields requirements : List Laid) : Drawing :=
  itemLine (word head ++ parameterList parameters ++ tupleFields fields ++
    requirementsBeforeEnd requirements)

def unitItem (head : String) (parameters requirements : List Laid) : Drawing :=
  itemLine (word head ++ parameterList parameters ++ requirementsBeforeEnd requirements)

def recordVariant (name : String) (fields : List Laid) : Drawing :=
  word name ++ word " \x7b" ++
    boxed indent (space ++ .ended commaOrSpace (inlines fields) ++ outdent) ++ word "\x7d"

def traitItem (head : String)
    (parameters supertraits requirements attributes items : List Laid) : Drawing :=
  let bounds := if supertraits.isEmpty then .empty else word ": " ++ plusSeparated supertraits
  itemBody
    (word head ++ parameterList parameters ++ bounds ++ requirementsBeforeBody requirements)
    (inOrder attributes ++ inOrder items)

def traitAlias (head : String) (parameters bounds requirements : List Laid) : Drawing :=
  itemLine (word head ++ parameterList parameters ++ word " = " ++ neverBreak ++
    summed .empty bounds ++ requirementsBeforeEnd requirements)

def implementation (head : String) (parameters : List Laid) (contract : Option Laid)
    (owner : Laid) (requirements attributes items : List Laid) : Drawing :=
  itemBody
    (packed (-indent)
        (boxed indent (word head ++ parameterList parameters) ++ blank ++
          maybe contract (fun path => path.inline ++ space ++ word "for ") ++ owner.inline) ++
      requirementsBeforeBody requirements)
    (inOrder attributes ++ inOrder items)

def moduleItem (head : String) (attributes items : List Laid) : Drawing :=
  itemBody (word head) (inOrder attributes ++ inOrder items)

def endsInGroup : Syntax → Bool
  | .prefixed _ tree => endsInGroup tree
  | .importGroup _ => true
  | _ => false

def importTrees : List Laid → Drawing
  | [] => .empty
  | [last] => last.inline
  | first :: rest =>
      first.inline ++ word "," ++ (if endsInGroup first.node then hardBreak else space) ++
        importTrees rest

/-- Whether the name, perhaps a new one for it, is that of the group's own module. -/
def isSelf : Syntax → Bool
  | .word text => text == "self" || text.startsWith "self as "
  | _ => false

/-- Names in braces; one alone needs them only if it is the group's own module. -/
def importGroup (trees : List Laid) : Drawing :=
  let braced :=
    word "\x7b" ++
      boxed indent (zeroBreak ++ packed 0 (importTrees trees) ++ comma true ++ outdent) ++
      word "\x7d"
  match trees with
  | [tree] => if isSelf tree.node then braced else tree.inline
  | _ => braced

def importing (head : String) (tree : Laid) : Drawing :=
  word head ++ tree.inline ++ word ";" ++ hardBreak

end ProviderForge.Layout

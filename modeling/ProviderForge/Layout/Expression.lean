import ProviderForge.Layout.Node
import ProviderForge.Token.Integer

namespace ProviderForge.Layout

/-- Whether a condition of this form ends its line before the brace behind it when it takes
several lines. -/
def isWrapped : Syntax → Bool
  | .attributed _ node | .parenthesized node | .prefixed _ node | .attempted node
  | .call node _ | .jump _ (some node) | .binder _ node | .range _ _ (some node) => isWrapped node
  | .assignment .. | .awaited _ | .binary .. | .cast .. | .field .. | .index ..
  | .methodCall .. => true
  | _ => false

/-- A name so short that what is accessed of it need not begin a line. -/
def isShortName : Syntax → Bool
  | .path false [.segment name] => (name.utf8ByteSize : Int) ≤ indent
  | _ => false

def isBlockLike : Syntax → Bool
  | .array _ | .keywordBlock .. | .block .. | .closure .. | .record .. | .tuple .. => true
  | .quantified _ node => isBlockLike node
  | _ => false

/-- Whether the body of a closure goes into braces when it takes several lines. -/
def takesBraces : Syntax → Bool
  | .selection .. | .call .. => false
  | body => !isBlockLike body

/-- A whole number, a character, a byte or a truth value. -/
def isSimpleLiteral : Syntax → Bool
  | .literal text =>
      match text.toList with
      | '\'' :: _ | 'b' :: '\'' :: _ => true
      | _ =>
          text == "true" || text == "false" || (IntegerLiteral.ofText? text).isSome
  | .attributed _ node => isSimpleLiteral node
  | _ => false

def isCompoundAssignment (operator : String) : Bool :=
  operator.endsWith "=" && !(["==", "<=", ">=", "!="].contains operator)

def takesSemicolon : Syntax → Bool
  | .attributed _ node => takesSemicolon node
  | .assignment .. | .jump .. => true
  | .binary _ operator _ => isCompoundAssignment operator
  | _ => false

def dropsSemicolon : Syntax → Bool
  | .attributed _ node => dropsSemicolon node
  | .forLoop .. | .whileLoop .. => true
  | .conditional _ _ next => endsOpen next
  | _ => false
where
  /-- Whether the last branch has a condition. -/
  endsOpen : Option Syntax → Bool
    | none => true
    | some (.otherwise none _ _) => false
    | some (.otherwise (some _) _ next) => endsOpen next
    | some _ => false

/-- A link of a chain, of which the outermost one opens the group of all its lines. -/
def chainLink (place : Place) (inner : Drawing) : Drawing :=
  match place with
  | .link _ => inner
  | _ => boxed indent inner

/-- Whether the expression is a number that ends in a point, from which the point of an access
has to be kept apart. -/
def endsInPoint : Syntax → Bool
  | .literal text => text.endsWith "."
  | _ => false

def accessBase (base : Laid) (place : Place) : Drawing :=
  let atLineStart := place.isAtLineStart
  base.linked atLineStart ++
    if endsInPoint base.node then space
    else .only (!(atLineStart && isShortName base.node)) zeroBreak

/-- The base of what never begins a line. -/
def directBase (base : Laid) (place : Place) : Drawing :=
  match place with
  | .link atLineStart => base.linked atLineStart
  | _ => base.draw place

def fieldAccess (base : Laid) (member : String) (place : Place) : Drawing :=
  chainLink place (accessBase base place ++ word "." ++ word member)

def argumentList (arguments : List Laid) : Drawing :=
  match arguments with
  | [argument] => if isBlockLike argument.node then argument.inline else enclosed arguments
  | _ => enclosed arguments

def call (callee : Laid) (arguments : List Laid) (place : Place) : Drawing :=
  let base := match place with
    | .link _ => callee.linked false
    | _ => callee.draw place
  base ++ word "(" ++ argumentList arguments ++ word ")"

def methodCall (receiver method : Laid) (arguments : List Laid) (place : Place) : Drawing :=
  let isMovedBack := place == .lineStart && isShortName receiver.node
  chainLink place
    (accessBase receiver place ++ word "." ++ method.inline ++
      boxed (if isMovedBack then -indent else 0)
        (word "(" ++ argumentList arguments ++ word ")"))

def binary (left : Laid) (operator : String) (right : Laid) : Drawing :=
  packed indent
    (packed (-indent) left.inline ++ space ++ word operator ++ blank ++ right.inline)

def cast (value type : Laid) : Drawing :=
  packed indent (packed (-indent) value.inline ++ space ++ word "as " ++ type.inline)

def assignment (target value : Laid) : Drawing :=
  packed 0 (target.inline ++ word " = " ++ neverBreak ++ value.inline)

def range (start : Option Laid) (operator : String) (finish : Option Laid) : Drawing :=
  maybe start Laid.inline ++ word operator ++ maybe finish Laid.inline

def jump (keyword : String) (value : Option Laid) : Drawing :=
  word keyword ++ maybe value fun value => blank ++ value.inline

def array (elements : List Laid) : Drawing :=
  if elements.isEmpty then word "[]"
  else if elements.all fun element => isSimpleLiteral element.node then
    boxed indent
      (word "[" ++ zeroBreak ++
        packed 0 (.separated (word "," ++ space) (inlines elements)) ++ comma true ++ outdent ++
        word "]")
  else word "[" ++ enclosed elements ++ word "]"

def record (path : Laid) (fields : List Laid) (rest : Option Laid) : Drawing :=
  consistent indent ++ packed (-indent) path.inline ++ word " \x7b" ++ spaceIfNonempty ++
    .ended (fun isLast => commaOrSpace (isLast && rest.isNone)) (inlines fields) ++
    maybe rest (fun rest => word ".." ++ rest.inline ++ space) ++ outdent ++ finishWithin 34 ++
    word "\x7d"

/-- A block that stays on one line if it holds one expression that fits there. -/
def smallBlock (attributes statements : List Laid) : Drawing :=
  let content := match statements with
    | [⟨.statement _ false, draw⟩] => packed 0 (draw .lineStart) ++ space
    | _ => inOrder statements
  word "\x7b" ++
    (if attributes.isEmpty && statements.isEmpty then .empty
    else space ++ inOrder attributes ++ content ++ outdent) ++
    word "\x7d"

def bodyLines (attributes statements : List Laid) : Drawing :=
  consistent indent ++ hardBreakIfNonempty ++ inOrder attributes ++ inOrder statements ++ braceEnd

def condition (expression : Laid) : Drawing :=
  boxed 0 (expression.inline ++ if isWrapped expression.node then space else blank)

def forLoop (label : String) (pattern iterated : Laid) (attributes statements : List Laid) :
    Drawing :=
  packed 0
    (word label ++ word "for " ++ pattern.inline ++ word " in " ++ neverBreak ++
      condition iterated ++ word "\x7b" ++ neverBreak ++ bodyLines attributes statements)

def whileLoop (label : String) (tested : Laid) (attributes statements : List Laid) : Drawing :=
  word label ++ word "while " ++ condition tested ++ word "\x7b" ++ neverBreak ++
    bodyLines attributes statements

def endlessLoop (label : String) (attributes statements : List Laid) : Drawing :=
  word label ++ word "loop \x7b" ++ bodyLines attributes statements

/-- A test and the brace behind it, at the indentation of the whole conditional. -/
def branchCondition (tested : Laid) : Drawing :=
  word "if " ++ boxed (-indent) (condition tested)

def conditional (tested : Laid) (statements : List Laid) (next : Option Laid) : Drawing :=
  let branches := match next with
    | some next => smallBlock [] statements ++ next.inline
    | none =>
        if statements.isEmpty then word "\x7b\x7d"
        else word "\x7b" ++ hardBreak ++ inOrder statements ++ outdent ++ word "\x7d"
  boxed indent (branchCondition tested ++ branches)

def otherwise (tested : Option Laid) (statements : List Laid) (next : Option Laid) : Drawing :=
  word " else " ++ maybe tested branchCondition ++ smallBlock [] statements ++
    maybe next Laid.inline

/-- A body on a line of its own, in braces if it can be a statement and otherwise in
parentheses, or behind what comes before it. -/
def looseBody (body : Laid) (drawn : Drawing) (closing : String) (unbroken : Option Char) :
    Drawing :=
  let isBraced := body.node.isStatementLike
  boxed indent
    (possible { atLineEnd := some (if isBraced then '\x7b' else '(') } ++ drawn ++
      possible {
        offset := -indent
        atLineEnd := if isBraced && takesSemicolon body.node then some ';' else none
        atLineStart := if isBraced then "\x7d" else closing
        unbroken })

def armHead (pattern : Laid) (guard : Option Laid) : Drawing :=
  pattern.inline ++ maybe guard (fun guard => word " if " ++ guard.inline) ++ word " => "

def arm (pattern : Laid) (guard : Option Laid) (body : Laid) : Drawing :=
  packed 0
    (armHead pattern guard ++ neverBreak ++
      looseBody body body.atLineStart "),"
        (if body.node.endsArmWithComma then some ',' else none)) ++
    hardBreak

def blockArm (pattern : Laid) (guard : Option Laid) (label : String)
    (attributes statements : List Laid) : Drawing :=
  packed 0
    (armHead pattern guard ++ word label ++ word "\x7b" ++ neverBreak ++
      bodyLines attributes statements) ++
    hardBreak

def selection (scrutinee : Laid) (attributes arms : List Laid) : Drawing :=
  packed 0
    (word "match " ++ condition scrutinee ++ word "\x7b" ++ neverBreak ++
      bodyLines attributes arms)

def closure (opening : Drawing) (inputs : List Laid) (output : Option Laid) (body : Laid) :
    Drawing :=
  let patterns :=
    .only (!inputs.isEmpty) zeroBreak ++ .separated (word "," ++ space) (inlines inputs)
  let head := opening ++ consistent indent ++ word "|" ++ patterns
  packed 0 <|
    match output with
    | none =>
        head ++ word "|" ++ space ++ outdent ++ finish ++ neverBreak ++
          if takesBraces body.node then looseBody body body.inline ")" none else body.inline
    | some type =>
        head ++ .only (!inputs.isEmpty) (comma true ++ outdent) ++ word "|" ++ finish ++
          word " -> " ++ type.inline ++ blank ++ neverBreak ++ body.inline

end ProviderForge.Layout

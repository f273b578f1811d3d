import ProviderForge.Layout.Draft
import ProviderForge.Syntax.Basic

namespace ProviderForge.Layout

/-- Where an expression stands: within a line, at the start of one, or inside a chain of
accesses and calls that stands within a line or at the start of one. -/
inductive Place
  | inline
  | lineStart
  | link (atLineStart : Bool)
deriving DecidableEq, Repr, Inhabited

def Place.isAtLineStart : Place → Bool
  | inline => false
  | lineStart => true
  | link atLineStart => atLineStart

structure Laid where
  node : Syntax
  draw : Place → Drawing

namespace Laid

def inline (laid : Laid) : Drawing :=
  laid.draw .inline

def atLineStart (laid : Laid) : Drawing :=
  laid.draw .lineStart

def linked (laid : Laid) (atLineStart : Bool) : Drawing :=
  if laid.node.isLink then laid.draw (.link atLineStart)
  else boxed (-indent) laid.inline

end Laid

def inlines (nodes : List Laid) : List Drawing :=
  nodes.map Laid.inline

def inOrder (nodes : List Laid) : Drawing :=
  .all (inlines nodes)

def maybe (node : Option Laid) (draw : Laid → Drawing) : Drawing :=
  match node with
  | some node => draw node
  | none => .empty

def commaSeparated (nodes : List Laid) : Drawing :=
  .ended comma (inlines nodes)

def enclosed (nodes : List Laid) : Drawing :=
  boxed indent (zeroBreak ++ commaSeparated nodes ++ outdent)

/-- As `enclosed`; an element alone keeps a comma where `hasComma`. -/
def enclosedTuple (nodes : List Laid) (hasComma : Bool) : Drawing :=
  match nodes with
  | [node] =>
      boxed indent (zeroBreak ++ node.inline ++ .only hasComma (word ",") ++ zeroBreak ++ outdent)
  | nodes => enclosed nodes

/-- Elements of which the first follows `first` and each other one a possible line end and a
plus sign. -/
def summed (first : Drawing) : List Laid → Drawing
  | [] => .empty
  | node :: nodes =>
      first ++ node.inline ++ .all (nodes.map fun node => space ++ word "+ " ++ node.inline)

def plusSeparated (nodes : List Laid) : Drawing :=
  .separated (word " + ") (inlines nodes)

def braceEnd : Drawing :=
  outdent ++ finish ++ word "\x7d"

def isLifetime (laid : Laid) : Bool :=
  match laid.node with
  | .lifetime _ | .attributed _ (.lifetime _) => true
  | _ => false

def lifetimesFirst (nodes : List Laid) : List Laid :=
  nodes.filter isLifetime ++ nodes.filter (!isLifetime ·)

def pathDrawing (isGlobal : Bool) (segments : List Laid) : Drawing :=
  .only isGlobal (word "::") ++ .separated (word "::") (inlines segments)

def genericSegment (isExpression : Bool) (name : String) (arguments : List Laid) : Drawing :=
  word name ++
    if arguments.isEmpty then .empty
    else .only isExpression (word "::") ++ word "<" ++ enclosed (lifetimesFirst arguments) ++
      word ">"

def result (output : Option Laid) : Drawing :=
  maybe output fun type => word " -> " ++ type.inline

def callableSegment (name : String) (inputs : List Laid) (output : Option Laid) : Drawing :=
  word name ++ boxed indent
    (word "(" ++ zeroBreak ++ commaSeparated inputs ++ outdent ++ word ")" ++ result output)

def quantifier (parameters : List Laid) : Drawing :=
  word "for<" ++ .separated (word ", ") (inlines parameters) ++ word "> "

def qualifiedPath (owner : Laid) (contract : Option Laid) (segments : List Laid) : Drawing :=
  word "<" ++ owner.inline ++ maybe contract (fun path => word " as " ++ path.inline) ++
    word ">" ++ .all (segments.map fun segment => word "::" ++ segment.inline)

/-- Inputs, of which the last may stand for any more of them. -/
def inputList (inputs : List Laid) (variadic : Option Laid) : Drawing :=
  .ended (fun isLast => comma (isLast && variadic.isNone)) (inlines inputs) ++
    maybe variadic fun node => node.inline ++ zeroBreak

def functionType (keywords : String) (inputs : List Laid) (variadic output : Option Laid) :
    Drawing :=
  word keywords ++ word "fn(" ++
    boxed indent (zeroBreak ++ inputList inputs variadic ++ outdent) ++ word ")" ++ result output

def isSimpleCase (laid : Laid) : Bool :=
  match laid.node with
  | .literal _ | .word "_" => true
  | _ => false

def alternatives (cases : List Laid) : Drawing :=
  (if cases.all isSimpleCase then inconsistent 0 else consistent 0) ++
    .separated (space ++ word "| ") (inlines cases) ++ finish

def recordPattern (path : Laid) (fields : List Laid) (rest : Option Laid) : Drawing :=
  boxed indent (path.inline ++ word " \x7b" ++ spaceIfNonempty ++
    .ended (fun isLast => commaOrSpace (isLast && rest.isNone)) (inlines fields) ++
    maybe rest (fun node => node.inline ++ space) ++ outdent) ++ word "\x7d"

end ProviderForge.Layout

import ProviderForge.Token.Basic

/-!
The syntax of a source file, as far as its layout needs it. Words that always stand together on
one line are kept as one text.
-/

namespace ProviderForge

inductive Syntax
  -- attributes
  | attributed (attributes : List Syntax) (node : Syntax)
  | attribute (isInner : Bool) (path : String) (arguments : Code)
  | valueAttribute (isInner : Bool) (path : String) (value : Syntax)
  -- common to expressions, patterns and types
  | word (text : String)
  | lifetime (text : String)
  | literal (text : String)
  | prefixed (mark : String) (node : Syntax)
  | joined (left : Syntax) (mark : String) (right : Syntax)
  | parenthesized (node : Syntax)
  | tuple (elements : List Syntax) (hasComma : Bool)
  | repeated (element count : Syntax)
  | macroCall (path : String) (name : Option String) (delimiter : Delimiter) (content : Code)
  -- paths
  | path (isGlobal : Bool) (segments : List Syntax)
  | segment (name : String)
  | genericSegment (isExpression : Bool) (name : String) (arguments : List Syntax)
  | callableSegment (name : String) (inputs : List Syntax) (output : Option Syntax)
  | qualifiedPath (owner : Syntax) (contract : Option Syntax) (segments : List Syntax)
  | constraint (subject : Syntax) (bounds : List Syntax)
  | quantified (parameters : List Syntax) (node : Syntax)
  -- types
  | slice (element : Syntax)
  | bounded (keyword : String) (bounds : List Syntax)
  | functionType (keywords : String) (inputs : List Syntax) (variadic : Option Syntax)
      (output : Option Syntax)
  -- patterns
  | alternatives (cases : List Syntax)
  | slicePattern (elements : List Syntax)
  | tuplePattern (path : Syntax) (elements : List Syntax)
  | recordPattern (path : Syntax) (fields : List Syntax) (rest : Option Syntax)
  -- expressions
  | array (elements : List Syntax)
  | assignment (target value : Syntax)
  | binary (left : Syntax) (operator : String) (right : Syntax)
  | cast (value type : Syntax)
  | range (start : Option Syntax) (operator : String) (finish : Option Syntax)
  | jump (keyword : String) (value : Option Syntax)
  | awaited (base : Syntax)
  | attempted (base : Syntax)
  | field (base : Syntax) (member : String)
  | index (base position : Syntax)
  | call (callee : Syntax) (arguments : List Syntax)
  | methodCall (receiver method : Syntax) (arguments : List Syntax)
  | record (path : Syntax) (fields : List Syntax) (rest : Option Syntax)
  | fieldValue (member : String) (value : Syntax)
  | closure (keywords : String) (inputs : List Syntax) (output : Option Syntax) (body : Syntax)
  | binder (pattern value : Syntax)
  | block (label : String) (attributes statements : List Syntax)
  | keywordBlock (keyword : String) (attributes statements : List Syntax)
  | loop (label : String) (attributes statements : List Syntax)
  | whileLoop (label : String) (condition : Syntax) (attributes statements : List Syntax)
  | forLoop (label : String) (pattern iterated : Syntax) (attributes statements : List Syntax)
  | conditional (condition : Syntax) (statements : List Syntax) (otherwise : Option Syntax)
  | otherwise (condition : Option Syntax) (statements : List Syntax) (next : Option Syntax)
  | selection (scrutinee : Syntax) (attributes arms : List Syntax)
  | arm (pattern : Syntax) (guard : Option Syntax) (body : Syntax)
  | blockArm (pattern : Syntax) (guard : Option Syntax) (label : String)
      (attributes statements : List Syntax)
  -- statements
  | emptyStatement
  | statement (expression : Syntax) (isTerminated : Bool)
  | macroStatement (call : Syntax) (isTerminated : Bool)
  | binding (pattern : Syntax) (value : Option Syntax) (otherwise : Option Syntax)
  -- generics
  | typeParameter (name : String) (bounds : List Syntax) (fallback : Option Syntax)
  | requirement (subject : Syntax) (bounds : List Syntax)
  -- items
  | line (text : String)
  | importing (head : String) (tree : Syntax)
  | importGroup (trees : List Syntax)
  | macroItem (call : Syntax)
  | constantItem (head : String) (type : Syntax) (value : Option Syntax)
  | aliasItem (head : String) (parameters bounds : List Syntax) (requirements : List Syntax)
      (definition : Option Syntax) (isRequiredFirst : Bool)
  | foreignType (head : String) (parameters : List Syntax)
  | signature (head : String) (parameters inputs : List Syntax) (variadic : Option Syntax)
      (output : Option Syntax)
  | function (signature : Syntax) (requirements attributes statements : List Syntax)
  | functionDeclaration (signature : Syntax) (requirements : List Syntax)
  | unitItem (head : String) (parameters requirements : List Syntax)
  | tupleItem (head : String) (parameters fields requirements : List Syntax)
  | recordItem (head : String) (parameters requirements fields : List Syntax)
  | recordVariant (name : String) (fields : List Syntax)
  | tupleVariant (name : String) (fields : List Syntax)
  | traitItem (head : String) (parameters supertraits requirements attributes items : List Syntax)
  | traitAlias (head : String) (parameters bounds requirements : List Syntax)
  | implementation (head : String) (parameters : List Syntax) (contract : Option Syntax)
      (owner : Syntax) (requirements attributes items : List Syntax)
  | moduleItem (head : String) (attributes items : List Syntax)

instance : Inhabited Syntax := ⟨.emptyStatement⟩

structure SourceFile where
  attributes : List Syntax
  items : List Syntax
deriving Inhabited

namespace Syntax

def isLink : Syntax → Bool
  | awaited _ | attempted _ | field .. | index .. | call .. | methodCall .. => true
  | _ => false

/-- Whether a `match` arm with this body has to end in a comma. -/
def endsArmWithComma : Syntax → Bool
  | attributed _ node => node.endsArmWithComma
  | conditional .. | selection .. | block .. | loop .. | whileLoop .. | forLoop .. => false
  | keywordBlock keyword .. => keyword.startsWith "async"
  | _ => true

/-- Whether the expression is a statement only with a semicolon behind it. -/
def endsStatementWithSemicolon : Syntax → Bool
  | attributed _ node => node.endsStatementWithSemicolon
  | macroCall _ _ delimiter _ => delimiter != .brace
  | node => node.endsArmWithComma

mutual
/-- Whether the text of the expression ends in a closing brace of its own. -/
def endsInBrace : Syntax → Bool
  | attributed _ node => node.endsInBrace
  | block .. | keywordBlock .. | loop .. | whileLoop .. | forLoop .. | conditional ..
  | selection .. | record .. => true
  | macroCall _ _ delimiter _ => delimiter == .brace
  | assignment _ value => value.endsInBrace
  | binary _ _ right => right.endsInBrace
  | binder _ value => value.endsInBrace
  | prefixed _ node | quantified _ node => node.endsInBrace
  | closure _ _ _ body => body.endsInBrace
  | jump _ (some value) => value.endsInBrace
  | range _ _ (some finish) => finish.endsInBrace
  | cast _ type => type.endsInBrace
  | functionType _ _ _ (some output) | callableSegment _ _ (some output) => output.endsInBrace
  | bounded _ nodes | path _ nodes => lastEndsInBrace nodes
  | _ => false

def lastEndsInBrace : List Syntax → Bool
  | [] => false
  | [.parenthesized last] | [last] => last.endsInBrace
  | _ :: nodes => lastEndsInBrace nodes
end

/-- Whether the expression would begin a statement as it stands: no part of it at the left end
is a statement of its own. -/
def isStatementLike : Syntax → Bool
  | attributed _ node => node.isStatementLike
  | awaited base | attempted base | field base _ | methodCall base _ _ => base.isStatementLike
  | assignment left _ | binary left _ _ | cast left _ | index left _ | call left _
  | range (some left) _ _ => left.endsStatementWithSemicolon && left.isStatementLike
  | _ => true

def isPlainPath : Syntax → Bool
  | path _ segments => segments.all fun part => (part matches .segment _)
  | _ => false

end Syntax

end ProviderForge

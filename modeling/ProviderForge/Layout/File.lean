import ProviderForge.Layout.Item
import ProviderForge.Layout.Lines

namespace ProviderForge

namespace Layout

mutual
def draw : Syntax → Place → Drawing
  | .attributed attributes node => fun place => inOrder (layAll attributes) ++ draw node place
  | .attribute isInner path arguments => fun _ => «attribute» isInner path arguments
  | .valueAttribute isInner path value => fun _ => valueAttribute isInner path ⟨value, draw value⟩
  | .word text | .lifetime text | .literal text | .segment text => fun _ => word text
  | .prefixed mark node => fun _ => word mark ++ draw node .inline
  | .joined left mark right => fun _ => draw left .inline ++ word mark ++ draw right .inline
  | .parenthesized node => fun _ => word "(" ++ draw node .inline ++ word ")"
  | .tuple elements hasComma => fun _ =>
      word "(" ++ enclosedTuple (layAll elements) hasComma ++ word ")"
  | .repeated element count => fun _ =>
      word "[" ++ draw element .inline ++ word "; " ++ draw count .inline ++ word "]"
  | .macroCall path name delimiter content => fun _ => macroCall path name delimiter content
  | .path isGlobal segments => fun _ => pathDrawing isGlobal (layAll segments)
  | .genericSegment isExpression name arguments => fun _ =>
      genericSegment isExpression name (layAll arguments)
  | .callableSegment name inputs output => fun _ =>
      callableSegment name (layAll inputs) (layOption output)
  | .qualifiedPath owner contract segments => fun _ =>
      qualifiedPath ⟨owner, draw owner⟩ (layOption contract) (layAll segments)
  | .constraint subject bounds => fun _ => constraint ⟨subject, draw subject⟩ (layAll bounds)
  | .quantified parameters (.closure keywords inputs output body) => fun _ =>
      closure (quantifier (layAll parameters) ++ word keywords) (layAll inputs) (layOption output)
        ⟨body, draw body⟩
  | .quantified parameters node => fun place => quantifier (layAll parameters) ++ draw node place
  | .slice element => fun _ => word "[" ++ draw element .inline ++ word "]"
  | .bounded keyword bounds => fun _ => word keyword ++ plusSeparated (layAll bounds)
  | .functionType keywords inputs variadic output => fun _ =>
      functionType keywords (layAll inputs) (layOption variadic) (layOption output)
  | .alternatives cases => fun _ => alternatives (layAll cases)
  | .slicePattern elements => fun _ =>
      word "[" ++ commaSeparated (layAll elements) ++ word "]"
  | .tuplePattern path elements => fun _ =>
      draw path .inline ++ word "(" ++ enclosed (layAll elements) ++ word ")"
  | .recordPattern path fields rest => fun _ =>
      recordPattern ⟨path, draw path⟩ (layAll fields) (layOption rest)
  | .array elements => fun _ => array (layAll elements)
  | .assignment target value => fun _ => assignment ⟨target, draw target⟩ ⟨value, draw value⟩
  | .binary left operator right => fun _ =>
      binary ⟨left, draw left⟩ operator ⟨right, draw right⟩
  | .cast value type => fun _ => cast ⟨value, draw value⟩ ⟨type, draw type⟩
  | .range start operator finish => fun _ =>
      range (layOption start) operator (layOption finish)
  | .jump keyword value => fun _ => jump keyword (layOption value)
  | .awaited base => fieldAccess ⟨base, draw base⟩ "await"
  | .attempted base => fun place => directBase ⟨base, draw base⟩ place ++ word "?"
  | .field base member => fieldAccess ⟨base, draw base⟩ member
  | .index base position => fun place =>
      directBase ⟨base, draw base⟩ place ++ word "[" ++ draw position .inline ++ word "]"
  | .call callee arguments => call ⟨callee, draw callee⟩ (layAll arguments)
  | .methodCall receiver method arguments =>
      methodCall ⟨receiver, draw receiver⟩ ⟨method, draw method⟩ (layAll arguments)
  | .record path fields rest => fun _ =>
      record ⟨path, draw path⟩ (layAll fields) (layOption rest)
  | .fieldValue member value => fun _ =>
      word member ++ word ": " ++ packed 0 (draw value .inline)
  | .closure keywords inputs output body => fun _ =>
      closure (word keywords) (layAll inputs) (layOption output) ⟨body, draw body⟩
  | .binder pattern value => fun _ =>
      packed 0 (word "let " ++ draw pattern .inline ++ word " = " ++ neverBreak ++
        draw value .inline)
  | .block label attributes statements => fun _ =>
      word label ++ boxed indent (smallBlock (layAll attributes) (layAll statements))
  | .keywordBlock keyword attributes statements => fun _ =>
      word keyword ++ boxed indent (smallBlock (layAll attributes) (layAll statements))
  | .loop label attributes statements => fun _ =>
      endlessLoop label (layAll attributes) (layAll statements)
  | .whileLoop label tested attributes statements => fun _ =>
      whileLoop label ⟨tested, draw tested⟩ (layAll attributes) (layAll statements)
  | .forLoop label pattern iterated attributes statements => fun _ =>
      forLoop label ⟨pattern, draw pattern⟩ ⟨iterated, draw iterated⟩ (layAll attributes)
        (layAll statements)
  | .conditional tested statements next => fun _ =>
      conditional ⟨tested, draw tested⟩ (layAll statements) (layOption next)
  | .otherwise tested statements next => fun _ =>
      otherwise (layOption tested) (layAll statements) (layOption next)
  | .selection scrutinee attributes arms => fun _ =>
      selection ⟨scrutinee, draw scrutinee⟩ (layAll attributes) (layAll arms)
  | .arm pattern guard body => fun _ =>
      arm ⟨pattern, draw pattern⟩ (layOption guard) ⟨body, draw body⟩
  | .blockArm pattern guard label attributes statements => fun _ =>
      blockArm ⟨pattern, draw pattern⟩ (layOption guard) label (layAll attributes)
        (layAll statements)
  | .emptyStatement => fun _ => .empty
  | .statement expression isTerminated => statement ⟨expression, draw expression⟩ isTerminated
  | .macroStatement call isTerminated => fun _ =>
      macroStatement ⟨call, draw call⟩ isTerminated
  | .binding pattern value otherwise => fun _ =>
      binding ⟨pattern, draw pattern⟩ (layOption value) (layOption otherwise)
  | .typeParameter name bounds fallback => fun _ =>
      typeParameter name (layAll bounds) (layOption fallback)
  | .requirement subject bounds => fun _ => requirement ⟨subject, draw subject⟩ (layAll bounds)
  | .line text => fun _ => word text ++ hardBreak
  | .importing head tree => fun _ => importing head ⟨tree, draw tree⟩
  | .importGroup trees => fun _ => importGroup (layAll trees)
  | .macroItem call => fun _ => macroItem ⟨call, draw call⟩
  | .constantItem head type value => fun _ => constant head ⟨type, draw type⟩ (layOption value)
  | .aliasItem head parameters bounds requirements definition isRequiredFirst => fun _ =>
      typeAlias head (layAll parameters) (layAll bounds) (layAll requirements)
        (layOption definition) isRequiredFirst
  | .foreignType head parameters => fun _ => foreignType head (layAll parameters)
  | .signature head parameters inputs variadic output => fun _ =>
      signature head (layAll parameters) (layAll inputs) (layOption variadic)
        (layOption output)
  | .function signature requirements attributes statements => fun _ =>
      function ⟨signature, draw signature⟩ (layAll requirements) (layAll attributes)
        (layAll statements)
  | .functionDeclaration signature requirements => fun _ =>
      itemLine (draw signature .inline ++ requirementsBeforeEnd (layAll requirements))
  | .unitItem head parameters requirements => fun _ =>
      unitItem head (layAll parameters) (layAll requirements)
  | .tupleItem head parameters fields requirements => fun _ =>
      tupleItem head (layAll parameters) (layAll fields) (layAll requirements)
  | .recordItem head parameters requirements fields => fun _ =>
      recordItem head (layAll parameters) (layAll requirements) (layAll fields)
  | .recordVariant name fields => fun _ => recordVariant name (layAll fields)
  | .tupleVariant name fields => fun _ =>
      word name ++ boxed indent (tupleFields (layAll fields))
  | .traitItem head parameters supertraits requirements attributes items => fun _ =>
      traitItem head (layAll parameters) (layAll supertraits) (layAll requirements)
        (layAll attributes) (layAll items)
  | .traitAlias head parameters bounds requirements => fun _ =>
      traitAlias head (layAll parameters) (layAll bounds) (layAll requirements)
  | .implementation head parameters contract owner requirements attributes items => fun _ =>
      implementation head (layAll parameters) (layOption contract) ⟨owner, draw owner⟩
        (layAll requirements) (layAll attributes) (layAll items)
  | .moduleItem head attributes items => fun _ =>
      moduleItem head (layAll attributes) (layAll items)

def layAll : List Syntax → List Laid
  | [] => []
  | node :: nodes => ⟨node, draw node⟩ :: layAll nodes

def layOption : Option Syntax → Option Laid
  | none => none
  | some node => some ⟨node, draw node⟩
end

end Layout

def SourceFile.text (file : SourceFile) : String :=
  (Layout.boxed 0
    (Layout.inOrder (Layout.layAll file.attributes) ++
      Layout.inOrder (Layout.layAll file.items))).text

end ProviderForge

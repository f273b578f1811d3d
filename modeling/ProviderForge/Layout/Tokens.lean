import ProviderForge.Layout.Draft
import ProviderForge.Token.Basic

/-!
Tokens that no grammar describes: what macros are called with, the rules of a macro, and the
arguments of attributes.
-/

namespace ProviderForge.Layout

/-- What the tokens before a token are, as far as the space between them depends on it. -/
inductive Context
  | start
  | dollar
  | crateRoot
  | fragment
  | fragmentColon
  | repetition
  | repetitionSeparator
  | pound
  | poundBang
  | point
  | colon
  | colons
  | name
  | nameBang
  | closed
  | other
deriving DecidableEq, Repr, Inhabited

def spacedWords : List String := [
  "as", "async", "await", "box", "break", "const", "continue", "crate", "dyn", "else", "enum",
  "extern", "fn", "for", "if", "impl", "in", "let", "loop", "macro", "match", "mod", "move",
  "mut", "pub", "ref", "return", "static", "struct", "trait", "type", "unsafe", "use", "where",
  "while", "yield"]

def isPlainName (text : String) : Bool :=
  !spacedWords.contains text

/-- Whether a space belongs before the token, and the context behind it. -/
def follow (isMatcher : Bool) (context : Context) (token : Token) : Bool × Context :=
  match context, token with
  | .dollar, .ident text =>
      (false, if isMatcher then .fragment else if text == "crate" then .crateRoot else .other)
  | .fragment, .punct ':' .alone => (false, .fragmentColon)
  | .fragmentColon, .ident _ => (false, .other)
  | .repetition, .punct '+' .alone | .repetition, .punct '*' .alone
  | .repetition, .punct '?' .alone => (false, .other)
  | .repetition, .ident _ | .repetition, .literal _ => (false, .repetitionSeparator)
  | .repetition, .punct _ .joint => (false, .repetition)
  | .repetition, .punct _ .alone => (false, .repetitionSeparator)
  | .repetitionSeparator, .punct '+' _ | .repetitionSeparator, .punct '*' _ => (false, .other)
  | .pound, .punct '!' _ => (false, .poundBang)
  | .dollar, .group .parenthesis _ => (false, .repetition)
  | .pound, .group .bracket _ | .poundBang, .group .bracket _ => (false, .other)
  | .name, .group .parenthesis _ | .name, .group .bracket _ => (false, .closed)
  | .name, .punct '!' .alone => (false, .nameBang)
  | .nameBang, .group .parenthesis _ | .nameBang, .group .bracket _ => (false, .other)
  | .colon, .punct ':' _ => (false, .colons)
  | _, .group .parenthesis _ | _, .group .bracket _ => (true, .closed)
  | _, .group .brace _ => (true, .other)
  | _, .ident text =>
      if isPlainName text then (context != .point && context != .colons, .name) else (true, .other)
  | _, .literal text => (context != .point, if text.endsWith "." then .other else .name)
  | _, .punct ',' _ | _, .punct ';' _ => (false, .other)
  | _, .punct '.' _ =>
      if isMatcher then (true, .other) else (context != .name && context != .closed, .point)
  | _, .punct ':' .joint => (context != .name && context != .crateRoot, .colon)
  | _, .punct '$' _ => (true, .dollar)
  | _, .punct '#' _ => (true, .pound)
  | _, _ => (true, .other)

def isAttached : Token → Bool
  | .punct _ .joint | .punct '$' _ => true
  | _ => false

def isPoint : Token → Bool
  | .punct '.' _ => true
  | _ => false

mutual
def drawnToken (isMatcher : Bool) : Token → Drawing
  | .ident text => word text
  | .punct character _ => letter character
  | .literal text => word text
  | .group delimiter content =>
      let padding := Drawing.only (delimiter == .brace) space
      let inner :=
        if content.isEmpty then .empty
        else padding ++ tokens isMatcher .start true content ++ padding
      letter delimiter.opening ++ inner ++ letter delimiter.closing

/-- The tokens of a macro in `context`; no space comes first if they are attached to what is
before them. -/
def tokens (isMatcher : Bool) (context : Context) (attached : Bool) : List Token → Drawing
  | [] => .empty
  | token :: rest =>
      let (isSpaced, next) := follow isMatcher context token
      let gap :=
        if attached then .empty
        else if isSpaced then space
        else .only (isPoint token) zeroBreak
      gap ++ drawnToken isMatcher token ++ tokens isMatcher next (isAttached token) rest
end

def macroTokens (isMatcher : Bool) (code : Code) : Drawing :=
  tokens isMatcher .start true code

/-- Indented tokens between `before` and `after`, where a line may or must end. -/
def indentedTokens (isMatcher : Bool) (gap : Drawing) (code : Code) : Drawing :=
  if code.isEmpty then .empty
  else boxed indent (gap ++ packed 0 (macroTokens isMatcher code) ++ gap ++ outdent)

inductive RulePart
  | start
  | matched
  | equals
  | arrow
  | expanded
deriving DecidableEq, Repr, Inhabited

def macroRules (part : RulePart) : List Token → Drawing
  | [] =>
      match part with
      | .start => .empty
      | .expanded => word ";" ++ hardBreak
      | _ => hardBreak
  | token :: rest =>
      match part, token with
      | .start, .group delimiter content =>
          letter delimiter.opening ++ indentedTokens true zeroBreak content ++
            letter delimiter.closing ++ macroRules .matched rest
      | .matched, .punct '=' .joint => word " =" ++ macroRules .equals rest
      | .equals, .punct '>' .alone => word ">" ++ macroRules .arrow rest
      | .arrow, .group _ content =>
          word " \x7b" ++ neverBreak ++ indentedTokens false hardBreak content ++ word "\x7d" ++
            macroRules .expanded rest
      | .expanded, .punct ';' .alone => word ";" ++ hardBreak ++ macroRules .start rest
      | _, _ => .empty

def macroDefinition (name : String) (code : Code) : Drawing :=
  word "macro_rules! " ++ word name ++ word " \x7b" ++
    boxed indent (hardBreakIfNonempty ++ macroRules .start code ++ outdent) ++ word "\x7d"

def macroCall (path : String) (name : Option String) (delimiter : Delimiter) (content : Code) :
    Drawing :=
  match path, name with
  | "macro_rules", some name => macroDefinition name content
  | _, _ =>
      let gap := if delimiter == .brace then hardBreak else zeroBreak
      word path ++ word "!" ++ .optional (name.map fun name => blank ++ word name) ++
        .only (delimiter == .brace) blank ++ letter delimiter.opening ++
        indentedTokens false gap content ++ letter delimiter.closing

inductive ArgumentContext
  | word
  | mark
  | trailingComma
deriving DecidableEq, Repr, Inhabited

def argumentOpening : Delimiter → Drawing
  | .parenthesis => word "(" ++ consistent indent ++ zeroBreak
  | delimiter => letter delimiter.opening

def argumentClosing (context : ArgumentContext) : Delimiter → Drawing
  | .parenthesis => .only (context != .trailingComma) zeroBreak ++ outdent ++ finish ++ word ")"
  | delimiter => letter delimiter.closing

def argumentMark (context : ArgumentContext) (character : Char) : Drawing :=
  .only (context == .word && character == '=') blank ++ letter character ++
    (if character == '=' then blank else .only (character == ',') space)

mutual
def drawnArgument (context : ArgumentContext) : Token → Drawing
  | .ident text | .literal text => .only (context == .word) space ++ word text
  | .punct character _ => argumentMark context character
  | .group delimiter content =>
      argumentOpening delimiter ++ argumentTokens delimiter .mark content

def argumentTokens (delimiter : Delimiter) (context : ArgumentContext) : List Token → Drawing
  | [] => argumentClosing context delimiter
  | [.punct ',' _] => comma true ++ argumentClosing .trailingComma delimiter
  | token :: rest =>
      let next := match token with
        | .ident _ | .literal _ => .word
        | _ => .mark
      drawnArgument context token ++ argumentTokens delimiter next rest
end

def attributeArguments : Code → Drawing
  | [.group delimiter content] =>
      argumentOpening delimiter ++ argumentTokens delimiter .mark content
  | _ => .empty

end ProviderForge.Layout

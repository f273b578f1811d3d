import ProviderForge.Token.Basic

namespace ProviderForge

def Delimiter.displayOpening : Delimiter → String
  | .parenthesis => "("
  | .brace => "\x7b "
  | .bracket => "["

def Delimiter.displayClosing (content : Code) : Delimiter → String
  | .parenthesis => ")"
  | .brace => if content.isEmpty then "\x7d" else " \x7d"
  | .bracket => "]"

def Token.isJoint : Token → Bool
  | .punct _ .joint => true
  | _ => false

mutual
def Token.displayAfter (written : String) : Token → String
  | .ident text => written ++ text
  | .punct character _ => written.push character
  | .literal text => written ++ text
  | .group delimiter content =>
      Code.displayAfter (written ++ delimiter.displayOpening) true content ++
        delimiter.displayClosing content

/-- Appends the tokens' texts; `glued` tells that no space comes before the first. -/
def Code.displayAfter (written : String) (glued : Bool) : List Token → String
  | [] => written
  | token :: rest =>
      Code.displayAfter
        (Token.displayAfter (if glued then written else written.push ' ') token)
        token.isJoint rest
end

def Code.display (code : Code) : String :=
  Code.displayAfter "" true code

end ProviderForge

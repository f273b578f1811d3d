import ProviderForge.Token.Basic

namespace ProviderForge

inductive SyntaxFault
  /-- None of the `choices` stands here; `atEnd` tells that nothing does. -/
  | expected (choices : List String) (atEnd : Bool)
  | unexpected (delimiter : Delimiter)
  | refused (reason : String)
deriving DecidableEq, Repr, Inhabited

namespace SyntaxFault

def choicesText : List String → String
  | [] => "unexpected token"
  | [only] => "expected " ++ only
  | [first, second] => s!"expected {first} or {second}"
  | choices => "expected one of: " ++ String.intercalate ", " choices

def message : SyntaxFault → String
  | expected choices true => "unexpected end of input, " ++ choicesText choices
  | expected choices false => choicesText choices
  | unexpected delimiter =>
      "unexpected token, expected `" ++ String.singleton delimiter.closing ++ "`"
  | refused reason => reason

end SyntaxFault

end ProviderForge

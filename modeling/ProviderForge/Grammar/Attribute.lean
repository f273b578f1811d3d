import ProviderForge.Grammar.Path

namespace ProviderForge.Grammar

open ProviderForge.Parser

def attributeContent (rules : Reader) (isInner : Bool) : Parser Syntax := do
  let path ← if ← acceptsWord "unsafe" then pure "unsafe" else plainPath
  match ← get with
  | .group delimiter content :: _ =>
      skip 1
      return .attribute isInner path [.group delimiter content]
  | code =>
      if code.atMark ['='] then
        mark ['=']
        if ← looksAt fun code => code.atMark ['#'] && code.next.atGroup .bracket then
          refuse "unexpected attribute inside of attribute"
        return .valueAttribute isInner path (← rules (.expression true))
      else return .attribute isInner path []

def outerAttributes (rules : Reader) : Parser (List Syntax) :=
  many (·.atMark ['#']) do
    mark ['#']
    within .bracket (attributeContent rules false)

def innerAttributes (rules : Reader) : Parser (List Syntax) :=
  many (fun code => code.atMark ['#'] && code.next.atMark ['!']) do
    mark ['#']
    mark ['!']
    within .bracket (attributeContent rules true)

end ProviderForge.Grammar

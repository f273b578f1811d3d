import ProviderForge.Grammar.Item

namespace ProviderForge

namespace Grammar

open ProviderForge.Parser

def step (rules : Reader) : Reader
  | .type allowsPlus => type rules allowsPlus
  | .bound allowsCapture => bound rules allowsCapture
  | .pattern => pattern rules
  | .expression allowsRecord => expression rules allowsRecord
  | .operand allowsRecord => operand rules allowsRecord
  | .operation allowsRecord left least => operation rules allowsRecord left least
  | .arm => armBody rules
  | .block allowsAttributes => block rules allowsAttributes
  | .item => item rules
  | .importTree => importTree rules

/-- Reads a rule with calls that go at most `depth` deep. -/
def read : Nat → Reader
  | 0, _ => refuse "unexpected token"
  | depth + 1, rule => step (read depth) rule

def file (rules : Reader) : Parser SourceFile := do
  let attributes ← innerAttributes rules
  let items ← many (!·.isEmpty) (rules .item)
  return ⟨attributes, items⟩

/-- A depth to which the rules call one another at most in code of this size: no more than
`4` of them without taking a token. -/
def depth (code : Code) : Nat :=
  4 * (Code.size code + 1)

end Grammar

def SourceFile.ofCode (code : Code) : Except SyntaxFault SourceFile := do
  return (← Grammar.file (Grammar.read (Grammar.depth code)) code).1

end ProviderForge

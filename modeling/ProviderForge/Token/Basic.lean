namespace ProviderForge

inductive Delimiter
  | parenthesis
  | brace
  | bracket
deriving DecidableEq, Repr, Inhabited

/-- Whether a punctuation character reads as one operator with the character after it. -/
inductive Spacing
  | alone
  | joint
deriving DecidableEq, Repr, Inhabited

/-- A lifetime is a joint apostrophe before an identifier. -/
inductive Token
  | ident (text : String)
  | punct (character : Char) (spacing : Spacing)
  | literal (text : String)
  | group (delimiter : Delimiter) (content : List Token)
deriving Repr, Inhabited, BEq

abbrev Code := List Token

def Delimiter.opening : Delimiter → Char
  | .parenthesis => '('
  | .brace => '\x7b'
  | .bracket => '['

def Delimiter.closing : Delimiter → Char
  | .parenthesis => ')'
  | .brace => '\x7d'
  | .bracket => ']'

def Delimiter.ofOpening? : Char → Option Delimiter
  | '(' => some .parenthesis
  | '\x7b' => some .brace
  | '[' => some .bracket
  | _ => none

def Delimiter.ofClosing? : Char → Option Delimiter
  | ')' => some .parenthesis
  | '\x7d' => some .brace
  | ']' => some .bracket
  | _ => none

@[simp] theorem Delimiter.ofOpening?_opening (delimiter : Delimiter) :
    Delimiter.ofOpening? delimiter.opening = some delimiter := by
  cases delimiter <;> rfl

@[simp] theorem Delimiter.ofClosing?_closing (delimiter : Delimiter) :
    Delimiter.ofClosing? delimiter.closing = some delimiter := by
  cases delimiter <;> rfl

mutual
def Token.size : Token → Nat
  | .group _ content => Code.size content + 2
  | _ => 1

def Code.size : List Token → Nat
  | [] => 0
  | token :: rest => token.size + Code.size rest
end

@[simp] theorem Code.size_nil : Code.size [] = 0 := rfl

@[simp] theorem Code.size_cons (token : Token) (rest : Code) :
    Code.size (token :: rest) = token.size + Code.size rest := rfl

@[simp] theorem Code.size_append (left right : Code) :
    Code.size (left ++ right) = Code.size left + Code.size right := by
  induction left with
  | nil => simp
  | cons token rest ih => simp [ih, Nat.add_assoc]

end ProviderForge

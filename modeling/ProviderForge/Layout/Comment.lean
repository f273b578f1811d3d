import ProviderForge.Layout.Draft
import ProviderForge.Token.Quoted

namespace ProviderForge.Layout

def withoutTrailingSpaces (text : List Char) : List Char :=
  (text.reverse.dropWhile (· == ' ')).reverse

/-- The lines of the text, of which all but the last lose the spaces at their ends. -/
def withoutInnerSpaces (text : List Char) : List Char :=
  go [] text
where
  go (line : List Char) : List Char → List Char
    | [] => line.reverse
    | '\n' :: rest => (line.dropWhile (· == ' ')).reverse ++ '\n' :: go [] rest
    | character :: rest => go (character :: line) rest

/-- Whether comment marks in the text are balanced, and none is left open at its end. -/
def isBalanced (depth : Nat) : List Char → Bool
  | '/' :: '*' :: rest => isBalanced (depth + 1) rest
  | '*' :: '/' :: rest =>
      match depth with
      | 0 => false
      | depth + 1 => isBalanced depth rest
  | _ :: rest => isBalanced depth rest
  | [] => depth == 0

def fitsBlock (text : List Char) : Bool :=
  isBalanced 0 text && text.getLast? != some '/'

def beginsWithOneOf (characters : List Char) (text : List Char) : Bool :=
  match text with
  | first :: _ => characters.contains first
  | [] => false

def commentLine (mark : String) (text : List Char) : Drawing :=
  word mark ++ word (String.ofList (withoutTrailingSpaces text)) ++ hardBreak

def commentBlock (mark : String) (text : List Char) : Drawing :=
  word mark ++ word (String.ofList (withoutInnerSpaces text)) ++ word "*/" ++ hardBreak

def documentation? (isInner : Bool) (text : List Char) : Option Drawing :=
  if !text.contains '\n' && (isInner || !beginsWithOneOf ['/'] text) then
    some (commentLine (if isInner then "//!" else "///") text)
  else if fitsBlock text && (isInner || !beginsWithOneOf ['*', '/'] text) then
    some (commentBlock (if isInner then "/*!" else "/**") text)
  else none

def comment? (text : List Char) : Option Drawing :=
  if !text.contains '\n' then some (commentLine "//" text)
  else if fitsBlock text && !beginsWithOneOf ['*', '!'] text then some (commentBlock "/*" text)
  else none

/-- The comment that stands for an attribute with this literal as its value. -/
def attributeComment? (isInner : Bool) (path literal : String) : Option Drawing := do
  let text ← Quoted.value? literal
  match path with
  | "doc" => documentation? isInner text.toList
  | "comment" => comment? text.toList
  | _ => none

end ProviderForge.Layout

namespace ProviderForge

inductive Json
  | null
  | bool (value : Bool)
  | integer (value : Int)
  | string (value : String)
  | array (items : List Json)
  | object (members : List (String × Json))
deriving Repr, Inhabited, BEq

namespace Json

def strings (values : List String) : Json :=
  array (values.map string)

def ofOption (encode : α → Json) : Option α → Json
  | some value => encode value
  | none => null

def hexDigits (count value : Nat) : List Char :=
  let digits := Nat.toDigits 16 value
  List.replicate (count - digits.length) '0' ++ digits

/-- Only quotes, backslashes and control characters are escaped. -/
def escapeCharacter (character : Char) : List Char :=
  if character = '"' then ['\\', '"']
  else if character = '\\' then ['\\', '\\']
  else if 32 ≤ character.toNat then [character]
  else match character.toNat with
    | 8 => ['\\', 'b']
    | 9 => ['\\', 't']
    | 10 => ['\\', 'n']
    | 12 => ['\\', 'f']
    | 13 => ['\\', 'r']
    | point => '\\' :: 'u' :: hexDigits 4 point

def quoted (value : String) : List Char :=
  '"' :: value.toList.flatMap escapeCharacter ++ ['"']

def integerText (value : Int) : List Char :=
  (if value < 0 then ['-'] else []) ++ Nat.toDigits 10 value.natAbs

/-- What stands between the parts of a text: nothing, or line breaks with two spaces for each
level and one space after a colon. -/
inductive Style
  | compact
  | indented

def Style.lineBreak (style : Style) (level : Nat) : List Char :=
  match style with
  | .compact => []
  | .indented => '\n' :: List.replicate (2 * level) ' '

def Style.colon : Style → List Char
  | .compact => [':']
  | .indented => [':', ' ']

mutual
def write (style : Style) (level : Nat) : Json → List Char
  | null => ['n', 'u', 'l', 'l']
  | bool true => ['t', 'r', 'u', 'e']
  | bool false => ['f', 'a', 'l', 's', 'e']
  | integer value => integerText value
  | string value => quoted value
  | array [] => ['[', ']']
  | array (item :: items) =>
      '[' :: style.lineBreak (level + 1) ++ write style (level + 1) item ++
        writeItems style (level + 1) items ++ style.lineBreak level ++ [']']
  | object [] => ['\x7b', '\x7d']
  | object (member :: members) =>
      '\x7b' :: style.lineBreak (level + 1) ++ writeMember style (level + 1) member ++
        writeMembers style (level + 1) members ++ style.lineBreak level ++ ['\x7d']

def writeItems (style : Style) (level : Nat) : List Json → List Char
  | [] => []
  | item :: items =>
      ',' :: style.lineBreak level ++ write style level item ++ writeItems style level items

def writeMembers (style : Style) (level : Nat) : List (String × Json) → List Char
  | [] => []
  | member :: members =>
      ',' :: style.lineBreak level ++ writeMember style level member ++
        writeMembers style level members

def writeMember (style : Style) (level : Nat) : String × Json → List Char
  | (key, value) => quoted key ++ style.colon ++ write style level value
end

def compact (value : Json) : String :=
  String.ofList (value.write .compact 0)

def indented (value : Json) : String :=
  String.ofList (value.write .indented 0)

end Json

end ProviderForge

import ProviderForge.Name.Identifier
import ProviderForge.Token.Lexer

namespace ProviderForge.Code

def word (text : String) : Code :=
  [.ident text]

def ident (identifier : Identifier) : Code :=
  [identifier.token]

def mark (character : Char) : Code :=
  [.punct character .alone]

def operator (first second : Char) : Code :=
  [.punct first .joint, .punct second .alone]

def colons : Code :=
  operator ':' ':'

def arrow : Code :=
  operator '-' '>'

def fatArrow : Code :=
  operator '=' '>'

def text (value : String) : Code :=
  [.literal (Quoted.quote value)]

def number (value : Nat) : Code :=
  [.literal (String.ofList (Nat.toDigits 10 value))]

def parens (inner : Code) : Code :=
  [.group .parenthesis inner]

def braces (inner : Code) : Code :=
  [.group .brace inner]

def brackets (inner : Code) : Code :=
  [.group .bracket inner]

def separated (separator : Code) : List Code → Code
  | [] => []
  | [last] => last
  | first :: rest => first ++ separator ++ separated separator rest

/-- Codes with a comma between each two. -/
def listed (codes : List Code) : Code :=
  separated (mark ',') codes

/-- Codes with a comma behind each. -/
def terminated (codes : List Code) : Code :=
  codes.flatMap (· ++ mark ',')

@[simp] theorem separated_nil (separator : Code) : separated separator [] = [] := rfl

@[simp] theorem separated_singleton (separator code : Code) :
    separated separator [code] = code := rfl

@[simp] theorem terminated_nil : terminated [] = [] := rfl

@[simp] theorem terminated_cons (code : Code) (rest : List Code) :
    terminated (code :: rest) = code ++ mark ',' ++ terminated rest := rfl

def path (names : List String) : Code :=
  separated colons (names.map word)

def within (outer inner : Code) : Code :=
  outer ++ colons ++ inner

def angled (inner : Code) : Code :=
  mark '<' ++ inner ++ mark '>'

def reference (code : Code) : Code :=
  mark '&' ++ code

def mutableReference (code : Code) : Code :=
  mark '&' ++ word "mut" ++ code

def field (object member : Code) : Code :=
  object ++ mark '.' ++ member

def fields (object : Code) (members : List String) : Code :=
  members.foldl (fun object member => field object (word member)) object

def call (callee arguments : Code) : Code :=
  callee ++ parens arguments

def invoke (object : Code) (method : String) (arguments : Code) : Code :=
  call (field object (word method)) arguments

def macroCall (macroName : String) (arguments : Code) : Code :=
  word macroName ++ mark '!' ++ parens arguments

def statement (code : Code) : Code :=
  code ++ mark ';'

def assign (target value : Code) : Code :=
  target ++ mark '=' ++ value ++ mark ';'

def bind (pattern value : Code) : Code :=
  word "let" ++ pattern ++ mark '=' ++ value ++ mark ';'

def bindMutable (variableName : String) (value : Code) : Code :=
  bind (word "mut" ++ word variableName) value

def when (condition body : Code) : Code :=
  word "if" ++ condition ++ braces body

def loop (body : Code) : Code :=
  word "loop" ++ braces body

def armBlock (pattern body : Code) : Code :=
  pattern ++ fatArrow ++ braces body

def arm (pattern body : Code) : Code :=
  pattern ++ fatArrow ++ body ++ mark ','

def choose (scrutinee arms : Code) : Code :=
  word "match" ++ scrutinee ++ braces arms

def closure (parameters body : Code) : Code :=
  mark '|' ++ parameters ++ mark '|' ++ body

/-- A field of a record expression, with the comma behind it. -/
def entry (fieldName : String) (value : Code) : Code :=
  word fieldName ++ mark ':' ++ value ++ mark ','

def remainingDefaults : Code :=
  operator '.' '.' ++ call (path ["Default", "default"]) []

def ownedText (value : String) : Code :=
  invoke (text value) "to_string" []

def defaultOf (typeCode : Code) : Code :=
  call (within typeCode (word "default")) []

def attributeMark (content : Code) : Code :=
  mark '#' ++ brackets content

def derive (traits : List String) : Code :=
  attributeMark (call (word "derive") (listed (traits.map word)))

/-- A path of fields below a root; `self` is a root too. -/
def fieldPath (root : String) (members : List String) : Except Failure Code := do
  let root ← if root = "self" then pure (⟨"self"⟩ : Identifier) else Identifier.field root
  let members ← members.mapM Identifier.field
  return ident root ++ members.flatMap fun member => mark '.' ++ ident member

def ofFragment (context fragment : String) : Except Failure Code :=
  match Code.ofText? fragment.toList with
  | some code => .ok code
  | none => .error (.invalidFragment context)

def ofFragments (context : String) (fragments : List String) : Except Failure (List Code) :=
  fragments.mapM (ofFragment context)

def ofFragment? (context : String) : Option String → Except Failure Code
  | some fragment => ofFragment context fragment
  | none => .ok []

end ProviderForge.Code

import ProviderForge.Yaml.Reader
import ProviderForge.Yaml.Scalar

/-!
YAML texts as documents. An alias stands for the whole node with its anchor, so there is a
limit on how many are followed, and one on the depth.
-/

namespace ProviderForge.Yaml

def deepest : Nat := 128

def aliasesPerPart : Nat := 100

def memberPath (path : String) (key : Node) : String :=
  let name := match key with
    | .scalar _ text _ => text
    | _ => "?"
  if path.isEmpty then name else path ++ "." ++ name

def itemPath (path : String) (index : Nat) : String :=
  s!"{path}[{index}]"

/-- The nodes with anchors, and how many aliases may be followed. -/
structure Aliases where
  nodes : List (Nat × Node)
  limit : Nat

def Aliases.target (aliases : Aliases) (anchor : Nat) : Node :=
  match aliases.nodes.findRev? (·.1 == anchor) with
  | some (_, found) => found
  | none => .empty {}

def endingOf (fault : Option Fault) (location : Location) : Ending :=
  match fault with
  | none => .closed (some location)
  | some fault => .broken fault fault

/-- A collection that is too deep. A choice is refused for what it is. -/
def tooDeep (mark : Mark) (kind : Found) (location : Location) : Document :=
  .unusable {
    decoding := ⟨.malformed "recursion limit exceeded", some ⟨"", mark.place?⟩⟩
    skipping := none
    choosing := ⟨.invalidType kind "a YAML tag starting with '!'", some location⟩ }

/-- The document of a node that is no alias, at a path within the value around it; `member`
makes the documents of its parts, unless it is too deep to have any. -/
def contentOf (member : Option (String → Option Location → Node → Document)) (path : String)
    (around : Option Location) (node : Node) : Document :=
  match member, node with
  | _, .reference _ _ => .scalar (scalarOf "" .plain none around) none none
  | _, .missing fault => .unusable { decoding := fault }
  | _, .scalar label text style =>
      let location : Location := ⟨path, label.mark.place?⟩
      .scalar (scalarOf text style label.tag around) (some location) (some location)
  | none, .sequence label _ _ => tooDeep label.mark .sequence ⟨path, label.mark.place?⟩
  | none, .mapping label _ _ => tooDeep label.mark .mapping ⟨path, label.mark.place?⟩
  | some member, .sequence label items fault =>
      let location : Location := ⟨path, label.mark.place?⟩
      let items := items.zipIdx.map fun (item, index) =>
        ⟨member (itemPath path index) (some location) item, some location, none⟩
      .sequence (label.tag.bind Tag.choice?) items (endingOf fault location) (some location)
  | some member, .mapping label entries fault =>
      let location : Location := ⟨path, label.mark.place?⟩
      let entries := entries.map fun (key, value) =>
        ⟨member path (some location) key, member (memberPath path key) (some location) value,
          some location, some location⟩
      .mapping (label.tag.bind Tag.choice?) entries (endingOf fault location) (some location)

def documentOf (aliases : Aliases) :
    (depth : Nat) → String → Option Location → Node → Document
  | 0, path, around, node => resolve 0 none path around node
  | depth + 1, path, around, node =>
      resolve (depth + 1) (some (documentOf aliases depth)) path around node
where
  /-- An alias is followed only when its value is used. -/
  resolve (depth : Nat) (member : Option (String → Option Location → Node → Document))
      (path : String) (around : Option Location) : Node → Document
    | .reference anchor _ =>
        .deferred aliases.limit depth fun _ =>
          contentOf member path around (aliases.target anchor)
    | node => contentOf member path around node

/-- The handles that need no directive. -/
def knownHandles : List (String × Octets) :=
  [("!", .ofString "!"), ("!!", .ofString "tag:yaml.org,2002:")]

def directives (fuel : Nat) (hasVersion : Bool) (source : Source) :
    Except SyntaxFault (Token × Source) := do
  let (token, lexer) ← source.lexer.peek
  let source := { source with lexer }
  match fuel, token.kind with
  | fuel + 1, .versionDirective major minor =>
      if hasVersion then throw ⟨.repeatedVersion, token.start, none⟩
      else if major ≠ 1 ∨ (minor ≠ 1 ∧ minor ≠ 2) then
        throw ⟨.incompatibleVersion, token.start, none⟩
      else directives fuel true source.skip
  | fuel + 1, .tagDirective handle leader =>
      if (source.handles.lookup handle).isSome then
        throw ⟨.repeatedHandle, token.start, none⟩
      else
        directives fuel hasVersion
          { source.skip with handles := source.handles ++ [(handle, leader)] }
  | _, _ => return (token, source)

def startsDocument : Token.Kind → Bool
  | .versionDirective _ _ | .tagDirective _ _ | .documentStart => true
  | _ => false

def endsDocument : Token.Kind → Bool
  | .documentEnd | .streamEnd => true
  | kind => startsDocument kind

def readFuel (source : Source) : Nat :=
  16 * source.lexer.cursor.rest.length + 64

/-- The first document. A text may have none. -/
def firstNode (source : Source) : Reading (Option Node) :=
  source.peek none fun token source =>
    match token.kind with
    | .streamEnd => .done (some (.empty token.start)) source
    | kind =>
        if !startsDocument kind then
          Source.node (readFuel source) true false { source with handles := knownHandles }
        else match directives (readFuel source) false source with
          | .error fault => .stopped none fault.toFault
          | .ok (token, source) =>
              let handles := source.handles ++ knownHandles
              if token.kind ≠ .documentStart then
                Source.refuse none .noDocumentStart token.start none
              else
                Source.nodeBefore (readFuel source) endsDocument true false none
                  { source.skip with handles }

def secondDocument : Fault :=
  ⟨.malformed "deserializing from YAML containing more than one document is not supported",
    some ⟨"", none⟩⟩

def isAtEnd (fuel : Nat) (lexer : Lexer) : Bool :=
  match fuel, lexer.peek with
  | fuel + 1, .ok (⟨.documentEnd, _⟩, lexer) => isAtEnd fuel lexer.skip
  | _, .ok (⟨.streamEnd, _⟩, _) => true
  | _, _ => false

def trailingFault? (source : Source) : Option Fault :=
  match source.lexer.peek with
  | .error fault => some fault.toFault
  | .ok (_, lexer) =>
      if isAtEnd (readFuel source) lexer then none else some secondDocument

def read (text : List Char) : Document × Option Fault :=
  let reading := firstNode { lexer := Lexer.ofText text }
  let node := match reading.value, reading.fault? with
    | some node, _ => node
    | none, some fault => .missing fault
    | none, none => .empty {}
  let aliases : Aliases := ⟨node.anchored, aliasesPerPart * node.size⟩
  let trailing := match reading.next with
    | .error fault => some fault
    | .ok source => trailingFault? source
  (documentOf aliases deepest "" none node, trailing)

def decode (text : List Char) (request : Document → Except Fault α) : Except Fault α := do
  let (document, trailing) := read text
  let result ← request document
  match trailing with
  | some fault => throw fault
  | none => return result

end ProviderForge.Yaml

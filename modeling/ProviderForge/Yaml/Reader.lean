import ProviderForge.Yaml.Lexer
import ProviderForge.Yaml.Node

/-!
Reading nodes from the tokens of a text. Where a token is missing there is an empty scalar, or
a fault, behind which nothing is read.
-/

namespace ProviderForge.Yaml

/-- The tokens ahead, the leading texts of the tag handles, and the numbers of the anchors. -/
structure Source where
  lexer : Lexer
  handles : List (String × Octets) := []
  anchors : List (String × Nat) := []

/-- What was read, and where to go on or the fault that ended it. -/
structure Reading (α : Type) where
  value : α
  next : Except Fault Source

namespace Reading

def done (value : α) (source : Source) : Reading α := ⟨value, .ok source⟩

def stopped (value : α) (fault : Fault) : Reading α := ⟨value, .error fault⟩

def fault? (reading : Reading α) : Option Fault :=
  match reading.next with
  | .ok _ => none
  | .error fault => some fault

def map (change : α → β) (reading : Reading α) : Reading β :=
  ⟨change reading.value, reading.next⟩

def cons (first : Reading (Option Node)) (others : Source → Reading (List Node)) :
    Reading (List Node) :=
  match first.next with
  | .error fault => stopped first.value.toList fault
  | .ok source => (others source).map (first.value.toList ++ ·)

/-- Reads on behind an entry. A key whose value is not there stays with the fault. -/
def consEntry (key : Reading (Option Node)) (value : Source → Reading (Option Node))
    (others : Source → Reading (List (Node × Node))) : Reading (List (Node × Node)) :=
  match key.value, key.next with
  | none, .ok source => others source
  | none, .error fault => stopped [] fault
  | some keyNode, .error fault => stopped [(keyNode, .missing fault)] fault
  | some keyNode, .ok source =>
      let value := value source
      match value.value, value.next with
      | none, .error fault => stopped [(keyNode, .missing fault)] fault
      | some valueNode, .error fault => stopped [(keyNode, valueNode)] fault
      | valueNode, .ok source =>
          (others source).map ((valueNode.toList.map (keyNode, ·)) ++ ·)

end Reading

namespace Source

def peek (source : Source) (otherwise : α) (go : Token → Source → Reading α) : Reading α :=
  match source.lexer.peek with
  | .error fault => .stopped otherwise fault.toFault
  | .ok (token, lexer) => go token { source with lexer }

def skip (source : Source) : Source :=
  { source with lexer := source.lexer.skip }

def refuse (value : α) (problem : Problem) (mark : Mark) (context : Option (Activity × Mark)) :
    Reading α :=
  .stopped value (SyntaxFault.toFault ⟨problem, mark, context⟩)

structure Properties where
  anchor : Option String := none
  tag : Option (TagName × Mark) := none

def Properties.isEmpty (properties : Properties) : Bool :=
  properties.anchor.isNone && properties.tag.isNone

/-- At most one anchor and one tag, in either order. -/
def properties (fuel : Nat) (found : Properties) (source : Source)
    (go : Properties → Token → Source → Reading (Option Node)) : Reading (Option Node) :=
  source.peek none fun token source =>
    match fuel, token.kind, found.anchor, found.tag with
    | fuel + 1, .anchor name, none, _ =>
        properties fuel { found with anchor := some name } source.skip go
    | fuel + 1, .tag name, _, none =>
        properties fuel { found with tag := some (name, token.start) } source.skip go
    | _, _, _, _ => go found token source

def resolve (source : Source) (start : Mark) (properties : Properties) :
    Except SyntaxFault (Option Octets) :=
  match properties.tag with
  | none => .ok none
  | some (name, mark) =>
      if name.handle.isEmpty then .ok (some name.suffix)
      else match source.handles.lookup name.handle with
        | some leader => .ok (some (leader ++ name.suffix))
        | none => .error ⟨.undefinedHandle, mark, some (.node, start)⟩

/-- A new anchor takes the number of names before it. -/
def label (source : Source) (start : Mark) (tag : Option Octets) (anchor : Option String) :
    Label × Source :=
  match anchor with
  | none => (⟨start, tag, none⟩, source)
  | some name =>
      let number := source.anchors.length
      let others := source.anchors.filter (·.1 != name)
      (⟨start, tag, some number⟩, { source with anchors := (name, number) :: others })

def endsEntry : Token.Kind → Bool
  | .blockEntry | .blockEnd => true
  | _ => false

def endsBlockPart : Token.Kind → Bool
  | .blockEntry | .key | .value | .blockEnd => true
  | _ => false

def endsKeyOrValue : Token.Kind → Bool
  | .key | .value | .blockEnd => true
  | _ => false

def endsPairKey : Token.Kind → Bool
  | .value | .flowEntry | .flowSequenceEnd => true
  | _ => false

def endsPairValue : Token.Kind → Bool
  | .flowEntry | .flowSequenceEnd => true
  | _ => false

def endsFlowKey : Token.Kind → Bool
  | .value | .flowEntry | .flowMappingEnd => true
  | _ => false

def endsFlowValue : Token.Kind → Bool
  | .flowEntry | .flowMappingEnd => true
  | _ => false

def emptyHere (source : Source) : Reading (Option Node) :=
  source.peek none fun token source => .done (some (.empty token.start)) source

mutual
/-- A node. Sequences without indentation stand only within block mappings. -/
def node (fuel : Nat) (isBlock allowsIndentless : Bool) (source : Source) :
    Reading (Option Node) :=
  match fuel with
  | 0 => .done none source
  | fuel + 1 =>
      source.peek none fun first source =>
        properties 2 {} source fun properties token source =>
          match properties.isEmpty, token.kind with
          | true, .reference name =>
              match source.anchors.lookup name with
              | some anchor => .done (some (.reference anchor token.start)) source.skip
              | none =>
                  .stopped none ⟨.malformed "unknown anchor", some ⟨"", token.start.place?⟩⟩
          | _, _ =>
              match source.resolve first.start properties with
              | .error fault => .stopped none fault.toFault
              | .ok tag =>
                  let (label, source) := source.label first.start tag properties.anchor
                  content fuel isBlock allowsIndentless label token source

def content (fuel : Nat) (isBlock allowsIndentless : Bool) (label : Label) (token : Token)
    (source : Source) : Reading (Option Node) :=
  match fuel with
  | 0 => .done none source
  | fuel + 1 =>
      let sequence (items : Reading (List Node)) : Reading (Option Node) :=
        items.map fun found => some (.sequence label found items.fault?)
      let mapping (entries : Reading (List (Node × Node))) : Reading (Option Node) :=
        entries.map fun found => some (.mapping label found entries.fault?)
      match token.kind, isBlock, allowsIndentless with
      | .blockEntry, _, true => sequence (indentlessItems fuel source)
      | .scalar text style, _, _ => .done (some (.scalar label text style)) source.skip
      | .flowSequenceStart, _, _ => sequence (flowItems fuel true token.start source.skip)
      | .flowMappingStart, _, _ => mapping (flowEntries fuel true token.start source.skip)
      | .blockSequenceStart, true, _ => sequence (blockItems fuel token.start source.skip)
      | .blockMappingStart, true, _ => mapping (blockEntries fuel token.start source.skip)
      | _, _, _ =>
          if label.tag.isSome || label.anchor.isSome then
            .done (some (.scalar label "" .plain)) source
          else
            refuse none .noNodeContent token.start
              (some (if isBlock then .blockNode else .flowNode, label.mark))

/-- A node behind an indicator, or nothing, which stands at `place` or at the next token. -/
def nodeBefore (fuel : Nat) (ends : Token.Kind → Bool) (isBlock allowsIndentless : Bool)
    (place : Option Mark) (source : Source) : Reading (Option Node) :=
  match fuel with
  | 0 => .done none source
  | fuel + 1 =>
      source.peek none fun token source =>
        if ends token.kind then .done (some (.empty (place.getD token.start))) source
        else node fuel isBlock allowsIndentless source

def blockItems (fuel : Nat) (start : Mark) (source : Source) : Reading (List Node) :=
  match fuel with
  | 0 => .done [] source
  | fuel + 1 =>
      source.peek [] fun token source =>
        match token.kind with
        | .blockEntry =>
            (nodeBefore fuel endsEntry true false (some token.behind) source.skip).cons
              (blockItems fuel start ·)
        | .blockEnd => .done [] source.skip
        | _ => refuse [] .noDash token.start (some (.blockSequence, start))

def indentlessItems (fuel : Nat) (source : Source) : Reading (List Node) :=
  match fuel with
  | 0 => .done [] source
  | fuel + 1 =>
      source.peek [] fun token source =>
        match token.kind with
        | .blockEntry =>
            (nodeBefore fuel endsBlockPart true false (some token.behind) source.skip).cons
              (indentlessItems fuel ·)
        | _ => .done [] source

def blockEntries (fuel : Nat) (start : Mark) (source : Source) :
    Reading (List (Node × Node)) :=
  match fuel with
  | 0 => .done [] source
  | fuel + 1 =>
      source.peek [] fun token source =>
        match token.kind with
        | .key =>
            (nodeBefore fuel endsKeyOrValue true true (some token.behind) source.skip).consEntry
              (valueBefore fuel endsKeyOrValue true ·) (blockEntries fuel start ·)
        | .blockEnd => .done [] source.skip
        | _ => refuse [] .noKey token.start (some (.blockMapping, start))

/-- The value of an entry, if a colon follows. -/
def valueBefore (fuel : Nat) (ends : Token.Kind → Bool) (isBlock : Bool) (source : Source) :
    Reading (Option Node) :=
  match fuel with
  | 0 => .done none source
  | fuel + 1 =>
      source.peek none fun token source =>
        match token.kind with
        | .value =>
            let place := if isBlock then some token.behind else none
            nodeBefore fuel ends isBlock isBlock place source.skip
        | _ => .done (some (.empty token.start)) source

def flowEntries (fuel : Nat) (isFirst : Bool) (start : Mark) (source : Source) :
    Reading (List (Node × Node)) :=
  match fuel with
  | 0 => .done [] source
  | fuel + 1 =>
      let entry (token : Token) (source : Source) : Reading (List (Node × Node)) :=
        match token.kind with
        | .flowMappingEnd => .done [] source.skip
        | .key =>
            (nodeBefore fuel endsFlowKey false false none source.skip).consEntry
              (valueBefore fuel endsFlowValue false ·) (flowEntries fuel false start ·)
        | _ =>
            (node fuel false false source).consEntry emptyHere (flowEntries fuel false start ·)
      source.peek [] fun token source =>
        match isFirst, token.kind with
        | true, _ | false, .flowMappingEnd => entry token source
        | false, .flowEntry => source.skip.peek [] entry
        | _, _ => refuse [] .noCommaOrBrace token.start (some (.flowMapping, start))

def flowItems (fuel : Nat) (isFirst : Bool) (start : Mark) (source : Source) :
    Reading (List Node) :=
  match fuel with
  | 0 => .done [] source
  | fuel + 1 =>
      let item (token : Token) (source : Source) : Reading (List Node) :=
        match token.kind with
        | .flowSequenceEnd => .done [] source.skip
        | .key =>
            let entries := pair fuel source.skip
            let found := Node.mapping ⟨token.start, none, none⟩ entries.value entries.fault?
            Reading.cons ⟨some found, entries.next⟩ (flowItems fuel false start ·)
        | _ => (node fuel false false source).cons (flowItems fuel false start ·)
      source.peek [] fun token source =>
        match isFirst, token.kind with
        | true, _ | false, .flowSequenceEnd => item token source
        | false, .flowEntry => source.skip.peek [] item
        | _, _ => refuse [] .noCommaOrBracket token.start (some (.flowSequence, start))

/-- An entry that stands as an item of a flow sequence. Its key is nothing if a token ends it,
and that token is passed. -/
def pair (fuel : Nat) (source : Source) : Reading (List (Node × Node)) :=
  match fuel with
  | 0 => .done [] source
  | fuel + 1 =>
      let key : Reading (Option Node) := source.peek none fun token source =>
        if endsPairKey token.kind then .done (some (.empty token.behind)) source.skip
        else node fuel false false source
      key.consEntry (valueBefore fuel endsPairValue false ·) fun source =>
        source.peek [] fun _ source => .done [] source
end

end Source

end ProviderForge.Yaml

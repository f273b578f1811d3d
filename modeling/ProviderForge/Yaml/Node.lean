import ProviderForge.Yaml.Token

namespace ProviderForge.Yaml

/-- What a node bears in front of its content. Anchors are numbered. -/
structure Label where
  mark : Mark
  tag : Option Octets := none
  anchor : Option Nat := none
deriving Repr

inductive Node
  | scalar (label : Label) (text : String) (style : Style)
  | sequence (label : Label) (items : List Node) (fault : Option Fault)
  | mapping (label : Label) (entries : List (Node × Node)) (fault : Option Fault)
  /-- The node with an anchor once more. -/
  | reference (anchor : Nat) (mark : Mark)
  | missing (fault : Fault)
deriving Repr

namespace Node

def empty (mark : Mark) : Node :=
  scalar ⟨mark, none, none⟩ "" .plain

def Anchored.ofLabel (label : Label) (node : Node) : List (Nat × Node) :=
  match label.anchor with
  | some anchor => [(anchor, node)]
  | none => []

mutual
def anchored : Node → List (Nat × Node)
  | scalar label text style => Anchored.ofLabel label (scalar label text style)
  | sequence label items fault =>
      Anchored.ofLabel label (sequence label items fault) ++ itemsAnchored items
  | mapping label entries fault =>
      Anchored.ofLabel label (mapping label entries fault) ++ entriesAnchored entries
  | reference _ _ => []
  | missing _ => []

def itemsAnchored : List Node → List (Nat × Node)
  | [] => []
  | item :: rest => item.anchored ++ itemsAnchored rest

def entriesAnchored : List (Node × Node) → List (Nat × Node)
  | [] => []
  | (key, value) :: rest => key.anchored ++ value.anchored ++ entriesAnchored rest
end

mutual
def size : Node → Nat
  | scalar _ _ _ => 1
  | sequence _ items fault => itemsSize items + (if fault.isSome then 1 else 2)
  | mapping _ entries fault => entriesSize entries + (if fault.isSome then 1 else 2)
  | reference _ _ => 1
  | missing _ => 0

def itemsSize : List Node → Nat
  | [] => 0
  | item :: rest => item.size + itemsSize rest

def entriesSize : List (Node × Node) → Nat
  | [] => 0
  | (key, value) :: rest => key.size + value.size + entriesSize rest
end

end Node

end ProviderForge.Yaml

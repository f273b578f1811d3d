import ProviderForge.Disk.Path
import ProviderForge.Failure

/-!
File trees and what is done on them one step at a time. A place is the list of the names on the
way to it from the root, which is the working directory.
-/

namespace ProviderForge

inductive Tree.Node
  | directory
  | file (content : String)
deriving DecidableEq, Repr, Inhabited

abbrev Tree.Place := List String

/-- What stands at each place but the root. -/
structure Tree where
  entries : List (Tree.Place × Tree.Node) := []
deriving DecidableEq, Repr, Inhabited

namespace Tree

def get? (tree : Tree) (place : Place) : Option Node :=
  if place.isEmpty then some .directory
  else (tree.entries.find? fun entry => entry.1 == place).map (·.2)

def erase (tree : Tree) (place : Place) : Tree :=
  ⟨tree.entries.filter fun entry => entry.1 != place⟩

def insert (tree : Tree) (place : Place) (node : Node) : Tree :=
  ⟨(tree.erase place).entries ++ [(place, node)]⟩

def longestName : Nat := 255

/-- The place that a name leads to from a directory, whether or not something stands there. -/
def follow (tree : Tree) (place : Place) (name : String) : Except FileFault Place :=
  match tree.get? place with
  | none => throw .notFound
  | some (.file _) => throw .notDirectory
  | some .directory =>
      if name == "." then return place
      else if name == ".." then return place.dropLast
      else if name.utf8ByteSize > longestName then throw .nameTooLong
      else return place ++ [name]

def directoryAt (tree : Tree) (names : List String) : Except FileFault Place := do
  let place ← names.foldlM (tree.follow ·) []
  match tree.get? place with
  | some .directory => return place
  | some (.file _) => throw .notDirectory
  | none => throw .notFound

/-- The longest path in bytes, and one more. -/
def pathLimit : Nat := 4096

/-- Where the last name of a path stands. -/
inductive Target
  /-- The working directory, or a name that leads back to a directory. -/
  | existing
  | named (directory : Place) (name : String)
deriving DecidableEq, Repr, Inhabited

def target (tree : Tree) (path : String) : Except FileFault Target := do
  if !Path.isTellable path then throw .notTellable
  else if path.isEmpty then throw .notFound
  else if path.utf8ByteSize ≥ pathLimit then throw .nameTooLong
  else
    match (Path.names path).reverse with
    | [] => return .existing
    | last :: before =>
        let directory ← tree.directoryAt before.reverse
        if last == "." || last == ".." then return .existing
        else return .named directory last

def find (tree : Tree) (path : String) : Except FileFault Node := do
  match ← tree.target path with
  | .existing => return .directory
  | .named directory name =>
      match tree.get? (← tree.follow directory name) with
      | none => throw .notFound
      | some (.file content) =>
          if Path.endsInSlash path then throw .notDirectory else return .file content
      | some .directory => return .directory

def isDirectory (tree : Tree) (path : String) : Bool :=
  match tree.find path with
  | .ok .directory => true
  | _ => false

def read (tree : Tree) (path : String) : Except FileFault String := do
  match ← tree.find path with
  | .file content => return content
  | .directory => throw .isDirectory

def makeDirectory (tree : Tree) (path : String) : Except FileFault Tree := do
  match ← tree.target path with
  | .existing => throw .alreadyExists
  | .named directory name =>
      let place ← tree.follow directory name
      match tree.get? place with
      | some _ => throw .alreadyExists
      | none => return tree.insert place .directory

def write (tree : Tree) (path content : String) : Except FileFault Tree := do
  match ← tree.target path with
  | .existing => throw .isDirectory
  | .named directory name =>
      if Path.endsInSlash path then throw .isDirectory
      else
        let place ← tree.follow directory name
        match tree.get? place with
        | some .directory => throw .isDirectory
        | _ => return tree.insert place (.file content)

def remove (tree : Tree) (path : String) : Except FileFault Tree := do
  match ← tree.target path with
  | .existing => throw .isDirectory
  | .named directory name =>
      let place ← tree.follow directory name
      match tree.get? place with
      | none => throw .notFound
      | some .directory => throw .isDirectory
      | some (.file _) =>
          if Path.endsInSlash path then throw .notDirectory else return tree.erase place

def rename (tree : Tree) (source path : String) : Except FileFault Tree := do
  let sourceTarget ← tree.target source
  let pathTarget ← tree.target path
  match sourceTarget, pathTarget with
  | .named sourceDirectory sourceName, .named directory name =>
      let sourcePlace ← tree.follow sourceDirectory sourceName
      match tree.get? sourcePlace with
      | some (.file content) =>
          let place ← tree.follow directory name
          if Path.endsInSlash path then throw .notDirectory
          else
            match tree.get? place with
            | some .directory => throw .isDirectory
            | _ =>
                if place == sourcePlace then return tree
                else return (tree.erase sourcePlace).insert place (.file content)
      | some .directory => throw .isDirectory
      | none => throw .notFound
  | _, _ => throw .busy

/-- The longer path first: a path and the paths of the directories around it, as far as `fuel`
reaches. -/
def ancestors : Nat → String → List String
  | 0, _ => []
  | fuel + 1, path =>
      if path.isEmpty then []
      else path :: match Path.parent? path with
        | some parent => ancestors fuel parent
        | none => []

/-- Makes the directory at the path. Only one that is there already is no fault. -/
def ensureDirectory (tree : Tree) (path : String) : Except FileFault Tree :=
  match tree.makeDirectory path with
  | .ok next => .ok next
  | .error fault => if tree.isDirectory path then .ok tree else .error fault

/-- Makes the directory at the path and the missing ones around it: the tree that comes of it,
and the fault that ended it. -/
def makeDirectories (tree : Tree) (path : String) : Tree × Except FileFault Unit :=
  go tree (ancestors (path.length + 1) path)
where
  go (tree : Tree) : List String → Tree × Except FileFault Unit
    | [] => (tree, .ok ())
    | path :: around =>
        match tree.ensureDirectory path with
        | .ok next => (next, .ok ())
        | .error .notFound =>
            match go tree around with
            | (next, .error fault) => (next, .error fault)
            | (next, .ok ()) =>
                match next.ensureDirectory path with
                | .ok last => (last, .ok ())
                | .error fault => (next, .error fault)
        | .error fault => (tree, .error fault)

def changes (tree later : Tree) : List (Place × Node) :=
  later.entries.filter fun (place, node) => tree.get? place != some node

end Tree

end ProviderForge

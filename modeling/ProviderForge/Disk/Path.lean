/-!
Paths as texts: names with slashes between them. Repeated slashes, and a point as a name that is
not the first one, say nothing.
-/

namespace ProviderForge

namespace Path

def cut (mark : Char) (text : String) : List String :=
  (text.toList.splitOn mark).map String.ofList

def pieces (path : String) : List String :=
  cut '/' path

/-- A piece that says nothing behind the first one. -/
def isIdle (piece : String) : Bool :=
  piece.isEmpty || piece == "."

/-- The pieces before the last one that says something, the latest first, and that piece;
`none` for the empty path and for the root. -/
def split (path : String) : Option (List String × String) :=
  match pieces path with
  | [] => none
  | first :: rest =>
      match rest.reverse.dropWhile isIdle with
      | last :: before => some (before ++ [first], last)
      | [] => if first.isEmpty then none else some ([], first)

def parent? (path : String) : Option String := do
  let (before, _) ← split path
  match before.reverse with
  | [] => some ""
  | first :: rest =>
      let kept := first :: (rest.reverse.dropWhile isIdle).reverse
      some (if kept == [""] then "/" else String.intercalate "/" kept)

def fileName? (path : String) : Option String := do
  let (_, last) ← split path
  if last == ".." || last == "." then none else some last

/-- A name at its last point, unless the point begins it. -/
def splitName (name : String) : String × Option String :=
  match (cut '.' name).reverse with
  | last :: before@(_ :: _) =>
      let stem := String.intercalate "." before.reverse
      if stem.isEmpty then (name, none) else (stem, some last)
  | _ => (name, none)

def extension? (path : String) : Option String := do
  (splitName (← fileName? path)).2

/-- The path with another extension; a path that names no file stays as it is. The old extension
goes first, and where that leaves `..` there is no file name left to extend, unless something
idle follows the name and is what goes. -/
def withExtension (path extension : String) : String :=
  match split path, fileName? path with
  | some (before, last), some _ =>
      let stem := (splitName last).1
      let leavesNoName := stem == "." && path.endsWith last
      let name := if leavesNoName then ".." else stem ++ "." ++ extension
      String.intercalate "/" (before.reverse ++ [name])
  | _, _ => path

/-- A file in a directory; the empty path is the working directory. -/
def join (directory name : String) : String :=
  if directory.isEmpty || directory.endsWith "/" then directory ++ name
  else directory ++ "/" ++ name

/-- The names that are walked through; a point stays where one is. -/
def names (path : String) : List String :=
  (pieces path).filter fun piece => !piece.isEmpty

/-- Whether the path can be told to the system, for which a zero ends a text. -/
def isTellable (path : String) : Bool :=
  !path.toList.contains '\x00'

def endsInSlash (path : String) : Bool :=
  path.endsWith "/"

end Path

end ProviderForge

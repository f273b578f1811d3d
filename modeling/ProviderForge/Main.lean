import ProviderForge.CommandLine.Execution

namespace ProviderForge

def Tree.observe (tree : Tree) (path : String) : IO Tree := do
  try
    let content ← IO.FS.readFile path
    return (tree.write path content).toOption.getD tree
  catch
    | .noFileOrDirectory .. => return tree
    | _ => return (tree.makeDirectories path).1

def Tree.observeAround (tree : Tree) (path : String) : IO Tree :=
  (Tree.ancestors (path.length + 1) path).reverse.foldlM Tree.observe tree

def CommandLine.Invocation.observe (invocation : CommandLine.Invocation) : IO Tree := do
  let tree ← Tree.observeAround {} invocation.output
  invocation.definitions.toList.foldlM Tree.observeAround tree

def GeneratedFile.save (file : GeneratedFile) : IO Unit := do
  match Path.parent? file.path with
  | some parent => unless parent.isEmpty do IO.FS.createDirAll parent
  | none => pure ()
  IO.FS.writeFile (temporaryPath file.path) file.content
  IO.FS.rename (temporaryPath file.path) file.path

end ProviderForge

open ProviderForge in
def main (arguments : List String) : IO UInt32 := do
  let tree ← match CommandLine.Invocation.ofArguments arguments with
    | .ok invocation => invocation.observe
    | .error _ => pure {}
  let execution := CommandLine.execute arguments (← IO.getEnv "RUST_LOG") tree
  execution.written.forM GeneratedFile.save
  IO.print execution.output
  IO.eprint execution.errors
  return execution.exitCode.toUInt32

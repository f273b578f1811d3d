import ProviderForge.Proofs.Disk.Beside

namespace ProviderForge.Tree

open Result Writing

/-- Whether a file of this name can be written in the directory, or what it is refused for. -/
def admits (tree : Tree) (directory : String) (whole : Place) (name : String) :
    Except FileFault Unit :=
  told (Path.join directory name) >>= fun _ => nameable name >>= fun _ =>
    if tree.get? (whole ++ [name]) = some .directory then .error .isDirectory else .ok ()

section

variable {tree : Tree} {directory name source : String} {whole : Place}

end

section

variable {tree : Tree} {directory stem : String} {whole : Place}

end

end ProviderForge.Tree

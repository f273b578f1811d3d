import ProviderForge.Proofs.Disk.Again
import ProviderForge.Proofs.Run.Agreement
import ProviderForge.Proofs.Run.Independent

namespace ProviderForge

open Result ProviderForge.Tree

namespace Task

variable {outputDirectory : String} {whole : Tree.Place} {task : Task} {tree base later : Tree}

end Task

namespace Session

variable {outputDirectory : String} {tree base : Tree} {tasks : List Task} {task : Task}
  {file : GeneratedFile} {schedule : List Nat} {outcomes : List Outcome}

end Session

end ProviderForge

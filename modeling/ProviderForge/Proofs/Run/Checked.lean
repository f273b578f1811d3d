import ProviderForge.Proofs.Definition.WellFormed
import ProviderForge.Proofs.Run.Preview

namespace ProviderForge

open Result

def Task.check : Task → Except Failure Unit
  | dataSource declared => declared.check
  | resource declared => declared.check
  | registry _ => .ok ()

def Definitions.entities (definitions : Definitions) : List Task :=
  definitions.dataSources.map .dataSource ++ definitions.resources.map .resource

namespace Definitions

end Definitions

end ProviderForge

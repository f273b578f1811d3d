import ProviderForge.Definition.BuiltIn
import ProviderForge.Proofs.Run.Independent

namespace ProviderForge

open Result

end ProviderForge

import LuaBytecode.Proofs.Sample.Chunks
import LuaBytecode.Proofs.Sample.Jit
import LuaBytecode.Proofs.Sample.V54

namespace LuaBytecode.Sample

end LuaBytecode.Sample

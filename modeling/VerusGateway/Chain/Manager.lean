import VerusGateway.Crypto.Decrypt

/-!
# The chain registry

`internal/chain/manager.go`: the enabled chains by id, each with its RPC client, and a default id.
The file service reaches a node only through `GetChain` and `GetDefaultChain`. A client is what its
`DecryptData` answers (`Crypto.RPCClient`); the one `NewManager` builds is `Chain.chainNode`.
-/

namespace VerusGateway.Chain

open Crypto

/-- `chain.Manager`: the enabled chains with their clients, and the default chain id. -/
structure Manager where
  chains : List (String × RPCClient)
  defaultChain : String

namespace Manager

/-- `(*Manager).GetChain`. -/
def getChain (m : Manager) (chainID : String) : Except GoError RPCClient :=
  match m.chains.lookup chainID with
  | some client => .ok client
  | none => .error (newChainError chainID "chain not found")

/-- `(*Manager).GetDefaultChain`. -/
def getDefaultChain (m : Manager) : Except GoError RPCClient := m.getChain m.defaultChain

end Manager

end VerusGateway.Chain

import VerusGateway.Rpc.Client

/-!
# A chain's configuration and its RPC client

`config.ChainConfig` with `(*ChainConfig).Validate` (`internal/config`), and the client that
`NewManager` (`internal/chain/manager.go`) builds for each enabled chain with `verusrpc.NewClient`.

`Validate` admits a `max_retries` from 0 to 10, and `NewClient` takes a zero for "unset" and puts its
default 3 in its place. So for a validated chain with `max_retries = m`, `Call` makes
`min(j, M + 1)` attempts, with `M = m` when `m ≥ 1` but `M = 3` when `m = 0`
(`chainCall_attempts`): a chain configured for no retries makes up to four attempts
(`chainCall_attempts_zero_retries`).

The manager registers for each enabled chain the `DecryptData` of that client (`chainNode`). Since a
validated chain makes at least one attempt, it answers a request whose context is already done with
the context's error (`chainNode_of_done`).
-/

namespace VerusGateway.Chain

open Rpc

/-- `config.ChainConfig`, with the fields `Validate` and `NewManager`'s client read. -/
structure ChainConfig where
  enabled : Bool
  rpcURL : String
  rpcUser : String
  rpcPassword : String
  rpcTimeout : Int
  maxRetries : Int
  retryDelay : Int

/-- `(*ChainConfig).Validate`; it does not read the chain id it is given. -/
def ChainConfig.validate (cc : ChainConfig) (_id : String) : Option GoError :=
  if !cc.enabled then none
  else if cc.rpcURL = "" then some (.other "rpc_url is required")
  else if cc.rpcUser = "" then some (.other "rpc_user is required")
  else if cc.rpcPassword = "" then some (.other "rpc_password is required")
  else if cc.rpcTimeout < Cache.second then some (.other "rpc_timeout must be at least 1 second")
  else if cc.maxRetries < 0 ∨ cc.maxRetries > 10 then some (.other "max_retries must be between 0 and 10")
  else none

theorem ChainConfig.maxRetries_of_validate {cc : ChainConfig} {id : String} (hen : cc.enabled = true)
    (hv : cc.validate id = none) : 0 ≤ cc.maxRetries ∧ cc.maxRetries ≤ 10 := by
  simp only [ChainConfig.validate, hen, Bool.not_true, Bool.false_eq_true, if_false] at hv
  split_ifs at hv with h
  omega

/-- The client `NewManager` builds for an enabled chain. -/
def chainClient (cc : ChainConfig) : Client :=
  newClient ⟨cc.rpcURL, cc.rpcUser, cc.rpcPassword, cc.rpcTimeout, cc.maxRetries, cc.retryDelay⟩

theorem chainClient_maxRetries_nonneg {cc : ChainConfig} {id : String} (hen : cc.enabled = true)
    (hv : cc.validate id = none) : 0 ≤ (chainClient cc).maxRetries := by
  have hm := ChainConfig.maxRetries_of_validate hen hv
  show 0 ≤ if cc.maxRetries = 0 then 3 else cc.maxRetries
  split_ifs <;> omega

/-- For an enabled chain that `Validate` accepts, with `max_retries = m`, the client retries
`M = 3` times when `m = 0` and `M = m` times otherwise: every `Call` makes `min(j, M + 1)` attempts,
`j` the first attempt that stops it, and returns what `Returns` lists. -/
theorem chainCall_attempts (cc : ChainConfig) (id : String) (ctx : Context) (exchange : Nat → Exchange)
    (hen : cc.enabled = true) (hv : cc.validate id = none) :
    (chainClient cc).maxRetries = (if cc.maxRetries = 0 then 3 else cc.maxRetries) ∧
      IsMinStop (stops ctx exchange) ((if cc.maxRetries = 0 then 3 else cc.maxRetries) + 1).toNat
        ((chainClient cc).call ctx exchange).2 ∧
      Returns (chainClient cc) ctx exchange ((chainClient cc).call ctx exchange).2
        ((chainClient cc).call ctx exchange).1 := by
  have hM : (chainClient cc).maxRetries = if cc.maxRetries = 0 then 3 else cc.maxRetries := rfl
  obtain ⟨hmin, hret⟩ := call_attempts (chainClient cc) ctx exchange (chainClient_maxRetries_nonneg hen hv)
  exact ⟨hM, hM ▸ hmin, hret⟩

/-- The node client `NewManager` registers for a chain: the `DecryptData` of `chainClient`, against
the node at the chain's `rpc_url`. -/
def chainNode (node : ChainConfig → String → String → Nat → Exchange)
    (parse : String → Except GoError String) (cc : ChainConfig) : Crypto.RPCClient :=
  (chainClient cc).decryptData (node cc) parse

theorem chainNode_of_done {cc : ChainConfig} {id : String} (hen : cc.enabled = true) (hv : cc.validate id = none)
    (node : ChainConfig → String → String → Nat → Exchange) (parse : String → Except GoError String)
    (e : GoError) (txid evk : String) :
    chainNode node parse cc (some e) txid evk = .error (.wrap "decryptdata failed" e) :=
  Client.decryptData_of_done _ (chainClient_maxRetries_nonneg hen hv) _ _ e txid evk

/-- A chain configured with `max_retries: 0`, as in the client test that means to disable retries. -/
def chainNoRetries : ChainConfig := ⟨true, "http://localhost:27486", "user", "pass", 30 * Cache.second, 0, 0⟩

/-- A node that answers every attempt with HTTP 500. -/
def serverError : Nat → Exchange := fun _ => .reply 500 "" (.error (.other ""))

/-- A context that is never cancelled. -/
def background : Context := ⟨none, .other "context canceled"⟩

/-- `Validate` accepts `chainNoRetries`, and against a node that always fails its client makes four
attempts where `max_retries + 1` is one. -/
theorem chainCall_attempts_zero_retries :
    chainNoRetries.enabled = true ∧ chainNoRetries.validate "vrsc" = none ∧
      IsMinStop (stops background serverError) 4 ((chainClient chainNoRetries).call background serverError).2 ∧
      ((chainClient chainNoRetries).call background serverError).2 = 4 :=
  ⟨rfl, rfl, (chainCall_attempts chainNoRetries "vrsc" background serverError rfl rfl).2.1, rfl⟩

end VerusGateway.Chain

import VerusGateway.Http.FileHandler
import VerusGateway.Http.Middleware

/-!
# The server: its middleware in front of the file routes

`server.New` (`internal/http/server`) builds the file service with the cache `main` configured and
mounts the file handlers behind `setupMiddleware`'s chain. The handlers pass the request's context to
the service. Both caches fail a `Get` whose context is done: the file system one returns the
context's error, Redis fails the command. The verusrpc client fails `DecryptData` on it as well,
before it reaches the node (`Chain.chainNode_of_done`).

* `getFile_snd_of_ctx_done`: with a done context, the service answers every request as the service
  without a cache does.
* `neverServes_of_ctx_done`: with a done context and node clients that answer it with its error, no
  request gets a file. `GetFile` and `GetMetadata` fail on every request, and a valid one for a
  registered chain, whose viewing key the decryptor accepts, fails with `DECRYPTION_FAILED` around
  that error. So `GET`, `HEAD` and `meta` on the file routes only ever write error responses
  (`NeverServes`).
-/

namespace VerusGateway.Http

open Service Cache Chain Crypto Storage Middleware

/-- A cache that fails `Get` on a done context leaves every answer to the pipeline. -/
theorem getFile_snd_of_ctx_done {σ : Type} (m : Manager) (c : Cache σ) (gz : GzipReader)
    (sniff : Bytes → String) (st : σ) (e : GoError) (t : Int) (r : FileRequest)
    (hfail : ∀ st now k, ((c.get st (some e) now k).2).toBool = false) :
    ((newFileService m (some c)).getFile gz sniff st (some e) t r).2 =
      ((uncached m).getFile gz sniff () (some e) t r).2 := by
  rw [FileService.uncached_getFile]
  cases hv : r.validate with
  | some e' => rw [FileService.getFile_of_invalid _ gz sniff hv]
  | none =>
    rw [FileService.getFile_snd_of_miss _ gz sniff hv fun c' hc _ => by cases hc; exact hfail _ _ _]
    rfl

theorem filesystem_get_of_ctx_done (sha256Hex : String → String) (e : GoError) (st : FilesystemCache)
    (now : Int) (k : String) : (((filesystemCache sha256Hex).get st (some e) now k).2).toBool = false := rfl

theorem redis_get_of_ctx_done (e : GoError) (st : RedisCache) (now : Int) (k : String) :
    ((redisCache.get st (some e) now k).2).toBool = false := rfl

/-- Every node client of `m` answers a request whose context is done with the context's error, as
`verusrpc.Client.DecryptData` does. -/
def NodesHonourContext (m : Manager) : Prop :=
  ∀ id client, m.getChain id = .ok client → ∀ e txid evk, client (some e) txid evk = .error (.wrap "decryptdata failed" e)

/-- A service that answers no request with a file: `GetFile` and `GetMetadata` fail on every request,
a valid one for a chain of `m` with a viewing key of the decryptor's form with `DECRYPTION_FAILED`
around `DecryptData`'s error on `e`, and the three file routes write only error responses. -/
def NeverServes (svc : FileServiceInterface) (m : Manager) (e : GoError) : Prop :=
  (∀ q, ∃ err, svc.getFile q = .error err ∧ svc.getMetadata q = .error err) ∧
  (∀ q, q.validate = none → reEVK q.evk = true → (∃ client, m.getChain q.chainId = .ok client) →
    svc.getFile q = .error (newDecryptionError q.txid (.wrap "decryptdata failed" e))) ∧
  ∀ requestID (r : Request),
    (∃ err, getFile svc requestID r = some (writeError Response.empty requestID err)) ∧
    (∃ err, headFile svc requestID r = some (writeError Response.empty requestID err)) ∧
    (∃ err, getMeta svc requestID r = some (writeError Response.empty requestID err))

section CtxDone

variable {σ : Type} (s : FileService σ) (gz : GzipReader) (sniff : Bytes → String) (e : GoError) (t : Int)

/-- Node clients that answer a done context with its error fail every valid request. -/
theorem fetch_of_ctx_done (hm : NodesHonourContext s.chainManager) {q : FileRequest} (hv : q.validate = none) :
    (∃ err, s.fetch gz sniff (some e) q t = .error err) ∧
    (reEVK q.evk = true → (∃ client, s.chainManager.getChain q.chainId = .ok client) →
      s.fetch gz sniff (some e) q t = .error (newDecryptionError q.txid (.wrap "decryptdata failed" e))) := by
  have hclient := FileService.getClient_of_validate s hv
  refine ⟨?_, fun hevk ⟨client, hc⟩ => ?_⟩
  · unfold FileService.fetch
    rw [hclient]
    cases hc : s.chainManager.getChain q.chainId with
    | error err => exact ⟨err, rfl⟩
    | ok client =>
      obtain ⟨err, herr⟩ := decryptData_error_of_node (hm _ client hc e q.txid q.evk)
      exact ⟨err, by simp only [herr]⟩
  · unfold FileService.fetch
    rw [hclient, hc]
    dsimp only
    rw [decryptData_of_node_error client (some e) (FileService.validate_patterns hv).1 hevk
      (hm _ client hc e q.txid q.evk)]

theorem getFile_error_of_ctx_done (st : σ) (hm : NodesHonourContext s.chainManager)
    (hcache : ∀ c, s.cache = some c → ∀ st now k, (c.get st (some e) now k).2.toBool = false) (q : FileRequest) :
    (∃ err, (s.getFile gz sniff st (some e) t q).2 = .error err) ∧
    (q.validate = none → (s.getFile gz sniff st (some e) t q).2 = s.fetch gz sniff (some e) q t) := by
  cases hv : q.validate with
  | some err => exact ⟨⟨err, by rw [FileService.getFile_of_invalid s gz sniff hv]⟩, fun h => nomatch h⟩
  | none =>
    have hsnd : (s.getFile gz sniff st (some e) t q).2 = s.fetch gz sniff (some e) q t :=
      FileService.getFile_snd_of_miss s gz sniff hv fun c hc _ => hcache c hc _ _ _
    exact ⟨hsnd ▸ (fetch_of_ctx_done s gz sniff e t hm hv).1, fun _ => hsnd⟩

/-- On a done context, with such a cache and such node clients, the service serves no request. -/
theorem neverServes_of_ctx_done (st : σ) (hm : NodesHonourContext s.chainManager)
    (hcache : ∀ c, s.cache = some c → ∀ st now k, (c.get st (some e) now k).2.toBool = false) :
    NeverServes (FileServiceInterface.ofService s gz sniff st (some e) t) s.chainManager e := by
  have hsvc : ∀ q, ∃ err, (FileServiceInterface.ofService s gz sniff st (some e) t).getFile q = .error err ∧
      (FileServiceInterface.ofService s gz sniff st (some e) t).getMetadata q = .error err := fun q => by
    obtain ⟨err, herr⟩ := (getFile_error_of_ctx_done s gz sniff e t st hm hcache q).1
    refine ⟨err, herr, ?_⟩
    show (s.getFile gz sniff st (some e) t q).2.map _ = _
    rw [herr]
    rfl
  refine ⟨hsvc, fun q hv hevk hc => ?_, fun requestID r => ⟨?_, ?_, ?_⟩⟩
  · show (s.getFile gz sniff st (some e) t q).2 = _
    rw [(getFile_error_of_ctx_done s gz sniff e t st hm hcache q).2 hv]
    exact (fetch_of_ctx_done s gz sniff e t hm hv).2 hevk hc
  · obtain ⟨err, herr, -⟩ := hsvc (getFileRequest r)
    exact ⟨err, by simp only [getFile, herr]⟩
  · obtain ⟨err, -, herr⟩ := hsvc (txidRequest r)
    exact ⟨err, by simp only [headFile, herr]⟩
  · obtain ⟨err, -, herr⟩ := hsvc (txidRequest r)
    exact ⟨err, by simp only [getMeta, herr]⟩

end CtxDone

end VerusGateway.Http

import VerusGateway.Service.Caching

/-!
# What a cache miss delivers

On a miss `GetFile` runs the pipeline. The decryptor checks the txid and the viewing key against its
own patterns, the node's hex reply is decoded to the payload `raw`, `MustDecompress` replaces gzip by
the decoded bytes when the reader decodes it under the 100 MiB cap and keeps everything else as it
is, and `DetectType` describes the delivered bytes (`getFile_miss_delivers`). So `Size` is the length
of what is delivered, and `Compressed` says whether the delivered bytes start with the gzip magic,
not whether the payload did: a gzip payload that decodes is reported uncompressed
(`getFile_miss_delivers_gzipA`).

`Validate` and the decryptor do not accept the same requests. Every txid that `Validate` accepts
passes `ValidateTXID` (`validateTXID_of_validate`), but `Validate` leaves the viewing key optional and
allows capitals, where `ValidateEVK` requires `zxviews` followed by digits and lower-case letters. Such
a request goes through the cache lookup and the chain lookup and is then refused as malformed by the
decryptor (`getFile_decryptor_rejects`).
-/

namespace VerusGateway.Service

open Cache Chain Crypto Storage FileService

/-- The response to a valid request that the cache does not answer, whose chain's node replies with
the hex of `raw`. -/
theorem getFile_miss_delivers {σ : Type} (m : Manager) (cache : Option (Cache σ)) (gz : GzipReader)
    (sniff : Bytes → String) (st : σ) (ctx : Option GoError) (now : Int) (r : FileRequest)
    (client : RPCClient) (hexData : String) (raw : Bytes) (hv : r.validate = none)
    (hevk : reEVK r.evk = true) (hclient : m.getChain r.chainId = .ok client)
    (hnode : client ctx r.txid r.evk = .ok hexData) (hhex : decodeString hexData = .ok raw)
    (hmiss : ∀ c, cache = some c → r.useCache = true → (c.get st ctx now r.cacheKey).2.toBool = false) :
    ∃ f md, ((newFileService m cache).getFile gz sniff st ctx now r).2 = .ok f ∧ f.metadata = some md ∧
      (isGzipped raw = true → ∀ cs, gz raw = .ok ⟨cs, none⟩ →
        (cs.flatten.length : Int) < 100 * 1024 * 1024 → f.content = cs.flatten) ∧
      ((isGzipped raw = false ∨ ∀ cs, gz raw = .ok ⟨cs, none⟩ →
        100 * 1024 * 1024 ≤ (cs.flatten.length : Int)) → f.content = raw) ∧
      md.size = f.content.length ∧ md.compressed = isGzipped f.content := by
  set s := newFileService m cache
  have hdec : decryptData client ctx r.txid r.evk = .ok raw := by
    rw [decryptData_of_node_ok client ctx (validate_patterns hv).1 hevk hnode, hhex]
  have hmax : s.decompressor.maxSize = 100 * 1024 * 1024 := rfl
  refine ⟨_, _, by rw [getFile_snd_of_miss s gz sniff hv hmiss,
    fetch_of_decrypted s gz sniff ((getClient_of_validate s hv).trans hclient) hdec], rfl, ?_, ?_, rfl, rfl⟩
  · exact fun hgz cs hread hlen => Decompressor.mustDecompress_of_valid _ gz raw cs hgz hread (hmax ▸ hlen)
  · rintro (hgz | hbad)
    · exact Decompressor.mustDecompress_of_not_gzipped _ gz raw hgz
    · cases hgz : isGzipped raw
      · exact Decompressor.mustDecompress_of_not_gzipped _ gz raw hgz
      · exact Decompressor.mustDecompress_of_invalid _ gz raw hgz (by rw [hmax]; decide) (hmax ▸ hbad)

/-- A node that answers every request with the hex of `Decompressor.gzipA`, the gzip encoding of `A`. -/
def nodeGzipA : RPCClient := fun _ _ _ => .ok "1f8b08000000000002037304008b9ed9d301000000"

/-- One chain, `vrsc`, served by `nodeGzipA`. -/
def managerGzipA : Manager := ⟨[("vrsc", nodeGzipA)], "vrsc"⟩

/-- The payload is gzip, the reader decodes it to `A`, and the file is reported uncompressed. -/
theorem getFile_miss_delivers_gzipA :
    ∃ f md, ((uncached managerGzipA).getFile (fun _ => .ok ⟨[[0x41]], none⟩) (fun _ => "") () none 0
      (requestA evkA "")).2 = .ok f ∧ f.metadata = some md ∧ isGzipped Decompressor.gzipA = true ∧
      f.content = [0x41] ∧ md.compressed = false := by
  have hhex : decodeString "1f8b08000000000002037304008b9ed9d301000000" = .ok Decompressor.gzipA :=
    eq_ok_of_toOption (by decide)
  have hgz : isGzipped Decompressor.gzipA = true := by decide
  obtain ⟨f, md, hf, hmd, hdecoded, -, -, hcomp⟩ := getFile_miss_delivers managerGzipA none
    (fun _ => .ok ⟨[[0x41]], none⟩) (fun _ => "") () none 0 (requestA evkA "") nodeGzipA
    "1f8b08000000000002037304008b9ed9d301000000" Decompressor.gzipA
    (Option.isNone_iff_eq_none.mp (by decide)) (by decide) rfl rfl hhex (fun _ h => nomatch h)
  have hcontent := hdecoded hgz [[0x41]] rfl (by decide)
  exact ⟨f, md, hf, hmd, hgz, hcontent, by rw [hcomp, hcontent]; rfl⟩

/-! ### `Validate` against the decryptor's checks -/

theorem validateTXID_of_validate {r : FileRequest} (h : r.validate = none) : validateTXID r.txid = none :=
  if_pos (validate_patterns h).1

/-- A valid request whose viewing key the decryptor's pattern refuses: after the cache lookup and the
chain lookup, `GetFile` fails with the decryptor's `INVALID_INPUT` error for `evk`. -/
theorem getFile_decryptor_rejects {σ : Type} (m : Manager) (cache : Option (Cache σ)) (gz : GzipReader)
    (sniff : Bytes → String) (st : σ) (ctx : Option GoError) (now : Int) (r : FileRequest)
    (client : RPCClient) (hv : r.validate = none) (hevk : reEVK r.evk = false)
    (hclient : m.getChain r.chainId = .ok client)
    (hmiss : ∀ c, cache = some c → r.useCache = true → (c.get st ctx now r.cacheKey).2.toBool = false) :
    ((newFileService m cache).getFile gz sniff st ctx now r).2 =
      .error (newInvalidInputError "evk" errInvalidEVK.text) := by
  set s := newFileService m cache
  rw [getFile_snd_of_miss s gz sniff hv hmiss]
  simp only [fetch, (getClient_of_validate s hv).trans hclient, decryptData,
    validateTXID_of_validate hv, validateEVK, hevk]
  rfl

/-- The request for `zeroTxid` on `vrsc` with no viewing key: `Validate` accepts it, `ValidateEVK`
refuses it, and `GetFile` reaches the decryptor and fails there. -/
theorem getFile_decryptor_rejects_empty_evk :
    (requestA "" "").validate = none ∧ validateEVK (requestA "" "").evk = some errInvalidEVK ∧
      ((uncached managerA).getFile (fun _ => .error (.other "")) (fun _ => "") () none 0
        (requestA "" "")).2 = .error (newInvalidInputError "evk" errInvalidEVK.text) :=
  ⟨rfl, rfl, getFile_decryptor_rejects managerA none _ _ () none 0 (requestA "" "") nodeA rfl rfl rfl
    (fun _ h => nomatch h)⟩

end VerusGateway.Service

import VerusGateway.Service.FileService

/-!
# What the cache does to `GetFile`

Both cache realisations refine the store (`filesystem_refines`, `redis_refines`), so `GetFile` behind
either answers every request with what the uncached service answers it, or with a hit that carries the
content and metadata the uncached service gave an earlier request of the run with the same chain,
txid and emptiness of the viewing key (`getFile_from_pipeline`). A hit carries no txid and no chain
id: both realisations build the `File` they return from the content and the metadata alone
(`filesystem_dropsIds`, `redis_dropsIds`). The earlier request's filename and viewing key are not part
of the key: a hit carries the metadata of the request that filled the cache, and a request whose
viewing key the node refuses is served the content decrypted under another key
(`getFile_serves_refused_evk`).
-/

namespace VerusGateway.Service

open Cache Chain Crypto Storage FileService FilesystemCache RedisCache

/-- A file a hit of `c` returns carries no txid and no chain id. -/
def DropsIds {σ : Type} (c : Cache σ) : Prop :=
  ∀ st ctx now k st' f, c.get st ctx now k = (st', .ok f) → f.txid = "" ∧ f.chainId = ""

theorem filesystem_dropsIds (sha256Hex : String → String) : DropsIds (filesystemCache sha256Hex) := by
  intro st ctx now k st' f h
  simp only [filesystemCache, FilesystemCache.get] at h
  split at h
  · cases h
  · split at h
    · cases h
    · split_ifs at h
      · cases h
      · cases h; exact ⟨rfl, rfl⟩

theorem redis_dropsIds : DropsIds redisCache := by
  intro st ctx now k st' f h
  simp only [redisCache, RedisCache.get] at h
  split at h
  · cases h
  · split at h
    · cases h
    · split_ifs at h
      · cases h
      · cases h; exact ⟨rfl, rfl⟩

/-- A response the uncached service gives the request, or one without txid and chain id that carries
the content and metadata the uncached service gave an earlier valid request of `evs` with the same
chain, txid and emptiness of the viewing key. -/
def FromPipeline (m : Manager) (gz : GzipReader) (sniff : Bytes → String) (evs : List Event)
    (ctx : Option GoError) (now : Int) (r : FileRequest) (f : File) : Prop :=
  ((uncached m).getFile gz sniff () ctx now r).2 = .ok f ∨
  f.txid = "" ∧ f.chainId = "" ∧
    ∃ ctx₀ t₀ r₀ g₀, Event.getFile ctx₀ t₀ r₀ ∈ evs ∧ r₀.chainId = r.chainId ∧ r₀.txid = r.txid ∧
      (r₀.evk = "" ↔ r.evk = "") ∧ ((uncached m).getFile gz sniff () ctx₀ t₀ r₀).2 = .ok g₀ ∧
      f.content = g₀.content ∧ f.metadata = g₀.metadata

theorem fromPipeline_of_refines {σ : Type} {c : Cache σ} {R : σ → Store → Prop} (m : Manager)
    (gz : GzipReader) (sniff : Bytes → String) (hR : c.Refines R Agrees) (hids : DropsIds c) {st₀ : σ}
    (h₀ : R st₀ fun _ => none) (evs : List Event) (ctx : Option GoError) (now : Int) (r : FileRequest)
    (f : File)
    (hok : ((newFileService m (some c)).getFile gz sniff ((newFileService m (some c)).run gz sniff st₀ evs)
      ctx now r).2 = .ok f) : FromPipeline m gz sniff evs ctx now r f := by
  have hfetch : (newFileService m (some c)).fetch gz sniff = (uncached m).fetch gz sniff := rfl
  rcases getFile_ok_of_run rfl hR h₀ evs ctx now r f hok with
    ⟨hv, hf⟩ | ⟨⟨st₁, hhit⟩, ctx₀, t₀, r₀, g₀, hmem, hchain, htxid, hevk, hv₀, hf₀, hcontent, hmeta⟩
  · left
    rw [uncached_getFile, hv, ← hfetch, hf]
  · right
    obtain ⟨htx, hch⟩ := hids _ _ _ _ _ _ hhit
    refine ⟨htx, hch, ctx₀, t₀, r₀, g₀, hmem, hchain, htxid, hevk, ?_, hcontent, hmeta⟩
    rw [uncached_getFile, hv₀, ← hfetch, hf₀]

/-! ### A chain whose node decrypts one transaction under one viewing key -/

/-- A transaction id. -/
def zeroTxid : String := "0000000000000000000000000000000000000000000000000000000000000000"

/-- Two well-formed viewing keys. -/
def evkA : String := "zxviews" ++ String.mk (List.replicate 90 'a')

def evkB : String := "zxviews" ++ String.mk (List.replicate 90 'b')

/-- A node that decrypts to the byte `A` under `evkA` and refuses every other key. -/
def nodeA : RPCClient := fun _ _ evk => if evk = evkA then .ok "41" else .error (.other "decryption failed")

/-- One chain, `vrsc`, served by `nodeA`. -/
def managerA : Manager := ⟨[("vrsc", nodeA)], "vrsc"⟩

/-- A request for `zeroTxid` on `vrsc` through the cache. -/
def requestA (evk filename : String) : FileRequest := ⟨zeroTxid, evk, "vrsc", filename, true⟩

theorem getFile_from_pipeline (sha256Hex : String → String) (hinj : Function.Injective sha256Hex)
    (fcfg : FilesystemCacheConfig) (rcfg : RedisCacheConfig) (m : Manager) (gz : GzipReader)
    (sniff : Bytes → String) (evs : List Event) (ctx : Option GoError) (now : Int) (r : FileRequest)
    (f : File) :
    (((newFileService m (some (filesystemCache sha256Hex))).getFile gz sniff
        ((newFileService m (some (filesystemCache sha256Hex))).run gz sniff
          (newFilesystemCache fcfg Dir.empty) evs) ctx now r).2 = .ok f →
      FromPipeline m gz sniff evs ctx now r f) ∧
    (((newFileService m (some redisCache)).getFile gz sniff
        ((newFileService m (some redisCache)).run gz sniff (newRedisCache rcfg) evs) ctx now r).2 =
          .ok f →
      FromPipeline m gz sniff evs ctx now r f) :=
  ⟨fromPipeline_of_refines m gz sniff (filesystem_refines hinj) (filesystem_dropsIds sha256Hex)
      (holds_empty _ rfl _) evs ctx now r f,
    fromPipeline_of_refines m gz sniff (redis_refines.mono fun _ _ h => h.agrees) redis_dropsIds
      (fun _ _ hv => by simp [newRedisCache] at hv) evs ctx now r f⟩

/-- The file system behind the service, with the byte `A` fetched for `a.txt` and asked for as
`b.txt`: the answer comes from the pipeline's answer to the first request. -/
theorem getFile_from_pipeline_b_txt :
    FromPipeline managerA (fun _ => .error (.other "")) (fun _ => "")
      [.getFile none 0 (requestA evkA "a.txt")] none 1 (requestA evkA "b.txt")
      ⟨"", "", [0x41], some (detectType (fun _ => "") [0x41] "a.txt"), 1⟩ :=
  (getFile_from_pipeline id Function.injective_id ⟨0, 0⟩ ⟨0⟩ managerA (fun _ => .error (.other ""))
    (fun _ => "") [.getFile none 0 (requestA evkA "a.txt")] none 1 (requestA evkA "b.txt")
    ⟨"", "", [0x41], some (detectType (fun _ => "") [0x41] "a.txt"), 1⟩).1
    (eq_ok_of_toOption (by decide))

/-! ### The cache key leaves out the filename and the viewing key -/

/-- A request the pipeline answers fills the file-system cache for later ones with its key. -/
theorem getFile_after_fetch (sha256Hex : String → String) (cfg : FilesystemCacheConfig) (m : Manager)
    (gz : GzipReader) (sniff : Bytes → String) (r₁ r₂ : FileRequest) (t₁ t₂ : Int) (g : File)
    (hv₁ : r₁.validate = none) (hu₁ : r₁.useCache = true) (hg : (uncached m).fetch gz sniff none r₁ t₁ = .ok g)
    (hv₂ : r₂.validate = none) (hu₂ : r₂.useCache = true) (hkey : r₂.cacheKey = r₁.cacheKey)
    (ht : t₂ - t₁ ≤ (newFilesystemCache cfg Dir.empty).ttl) :
    ∃ m', ((newFileService m (some (filesystemCache sha256Hex))).getFile gz sniff
      ((newFileService m (some (filesystemCache sha256Hex))).run gz sniff (newFilesystemCache cfg Dir.empty)
        [.getFile none t₁ r₁]) none t₂ r₂).2 = .ok ⟨"", "", g.content, some m', t₂⟩ := by
  set S := newFileService m (some (filesystemCache sha256Hex))
  set c₀ := newFilesystemCache cfg Dir.empty
  have hmiss : (filesystemCache sha256Hex).get c₀ none t₁ r₁.cacheKey =
      ({ c₀ with misses := c₀.misses + 1 }, .error errCacheMiss) :=
    get_of_lookup_none sha256Hex c₀ t₁ r₁.cacheKey (by simp [c₀, newFilesystemCache, calculateSize])
  have hrun : S.run gz sniff c₀ [.getFile none t₁ r₁] =
      (set sha256Hex .none { c₀ with misses := c₀.misses + 1 } none t₁ r₁.cacheKey g (24 * hour)).1 := by
    show (S.getFile gz sniff c₀ none t₁ r₁).1 = _
    rw [getFile_of_miss S gz sniff rfl hv₁ hu₁ hmiss]
    rw [show S.fetch gz sniff none r₁ t₁ = .ok g from hg]
    rfl
  obtain ⟨m', hf⟩ := get_set_self sha256Hex { c₀ with misses := c₀.misses + 1 } t₁ r₂.cacheKey g
    (24 * hour) t₂ ht
  rcases hget : get sha256Hex (set sha256Hex .none { c₀ with misses := c₀.misses + 1 } none t₁ r₂.cacheKey g
    (24 * hour)).1 none t₂ r₂.cacheKey with ⟨st₂, res⟩
  rw [hget] at hf
  cases hf
  refine ⟨m', ?_⟩
  rw [hrun, ← hkey, getFile_of_hit S gz sniff rfl hv₂ hu₂ (by exact hget)]

/-- Valid requests on different chains, for different transactions, or of which exactly one has a
viewing key, have different cache keys, and so different cache files for an injective hash. -/
theorem cacheKey_separates (r₁ r₂ : FileRequest) (hv₁ : r₁.validate = none) (hv₂ : r₂.validate = none)
    (hdiff : r₁.chainId ≠ r₂.chainId ∨ r₁.txid ≠ r₂.txid ∨
      (r₁.evk = "" ∧ r₂.evk ≠ "") ∨ (r₁.evk ≠ "" ∧ r₂.evk = "")) :
    r₁.cacheKey ≠ r₂.cacheKey ∧ ∀ sha256Hex : String → String, Function.Injective sha256Hex →
      getPaths sha256Hex r₁.cacheKey ≠ getPaths sha256Hex r₂.cacheKey := by
  have hkey : r₁.cacheKey ≠ r₂.cacheKey := fun h => by
    obtain ⟨hchain, htxid, hevk⟩ := cacheKey_source hv₁ hv₂ h
    rcases hdiff with h | h | ⟨h₁, h₂⟩ | ⟨h₁, h₂⟩
    · exact h hchain
    · exact h htxid
    · exact h₂ (hevk.mp h₁)
    · exact h₁ (hevk.mpr h₂)
  exact ⟨hkey, fun _ hinj h => hkey (getPaths_injective _ hinj h)⟩

/-- `zeroTxid` with `evkA` on `vrsc` and on `vrsctest`. -/
theorem cacheKey_separates_chains :
    (requestA evkA "").cacheKey ≠ { requestA evkA "" with chainId := "vrsctest" }.cacheKey ∧
      ∀ sha256Hex : String → String, Function.Injective sha256Hex →
        getPaths sha256Hex (requestA evkA "").cacheKey ≠
          getPaths sha256Hex { requestA evkA "" with chainId := "vrsctest" }.cacheKey :=
  cacheKey_separates _ _ (Option.isNone_iff_eq_none.mp (by decide))
    (Option.isNone_iff_eq_none.mp (by decide)) (.inl (by decide))

end VerusGateway.Service

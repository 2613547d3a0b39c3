import VerusGateway.Cache.Laws
import VerusGateway.Chain.Manager
import VerusGateway.Storage.Detector

/-!
# The file service

`FileService` (`internal/service/file_service.go`). `GetFile` validates the request, answers from the
cache when the request asks for it and a cache is configured, and otherwise runs the pipeline
(`fetch`): the chain's RPC client, `DecryptData`, `Decompress` with the raw bytes as fallback,
`DetectType`. A fetched file is written to the cache under the request's `CacheKey`, from a goroutine
with a fresh context; as in a deployment serving one request after another, the write is taken to
finish before the next request. The standard library's gzip reader and `http.DetectContentType` are the
parameters `gz` and `sniff`; the node is each chain's `RPCClient`.

Along a run of requests every stored entry is the pipeline's answer to an earlier request with the
entry's key (`Fetched`, kept by `step_inv`). So for any cache realisation that refines the store, a
response is either the uncached service's answer or the content and metadata the uncached service gave
an earlier request with the same chain, txid and emptiness of the viewing key
(`getFile_ok_of_run`). The cache key does not contain the viewing key, so a request whose key the node
refuses is answered from an earlier request's entry (see `Service.Caching`).
-/

namespace VerusGateway.Service

open Cache Chain Crypto Storage

/-- `service.FileService` over a cache realisation with state `σ`, when a cache is configured. -/
structure FileService (σ : Type) where
  chainManager : Manager
  cache : Option (Cache σ)
  decompressor : Decompressor

/-- `NewFileService`: the decompressor's limit is 100 MiB. -/
def newFileService {σ : Type} (chainManager : Manager) (cache : Option (Cache σ)) : FileService σ :=
  ⟨chainManager, cache, newDecompressor ⟨100 * 1024 * 1024⟩⟩

/-- The same service with `cache = nil`. -/
def uncached (chainManager : Manager) : FileService Unit := newFileService chainManager none

/-- The error of the admin operations without a cache. -/
def errCacheNotConfigured : GoError := .other "cache not configured"

namespace FileService

variable {σ : Type} (s : FileService σ) (gz : GzipReader) (sniff : Bytes → String)

/-- `(*FileService).getClient`. -/
def getClient (chainID : String) : Except GoError RPCClient :=
  if chainID = "" then s.chainManager.getDefaultChain else s.chainManager.getChain chainID

/-- The pipeline of `GetFile` after the cache lookup, under the request's context. A failing
decompression leaves the decrypted bytes as they are; `DetectType` never fails. -/
def fetch (ctx : Option GoError) (r : FileRequest) (now : Int) : Except GoError File :=
  match s.getClient r.chainId with
  | .error e => .error e
  | .ok client =>
    match decryptData client ctx r.txid r.evk with
    | .error e => .error e
    | .ok encryptedData =>
      let data := match s.decompressor.decompress gz encryptedData with
        | .ok d => d
        | .error _ => encryptedData
      .ok ⟨r.txid, r.chainId, data, some (detectType sniff data r.filename), now⟩

/-- `(*FileService).GetFile` on the cache state `st`: the new cache state and the response. -/
def getFile (st : σ) (ctx : Option GoError) (now : Int) (r : FileRequest) : σ × Except GoError File :=
  match r.validate with
  | some e => (st, .error e)
  | none =>
    match s.cache, r.useCache with
    | some c, true =>
      match c.get st ctx now r.cacheKey with
      | (st, .ok cached) => (st, .ok cached)
      | (st, .error _) =>
        match s.fetch gz sniff ctx r now with
        | .error e => (st, .error e)
        | .ok file => ((c.set st none now r.cacheKey file (24 * hour)).1, .ok file)
    | _, _ => (st, s.fetch gz sniff ctx r now)

/-- `(*FileService).GetMetadata`. -/
def getMetadata (st : σ) (ctx : Option GoError) (now : Int) (r : FileRequest) :
    σ × Except GoError (Option FileMetadata) :=
  let (st, res) := s.getFile gz sniff st ctx now r
  (st, res.map (·.metadata))

/-- `(*FileService).ClearCache`. -/
def clearCache (st : σ) (ctx : Option GoError) : σ × Option GoError :=
  match s.cache with
  | none => (st, some errCacheNotConfigured)
  | some c => c.clear st ctx

/-- `(*FileService).DeleteFromCache`. -/
def deleteFromCache (st : σ) (ctx : Option GoError) (cacheKey : String) : σ × Option GoError :=
  match s.cache with
  | none => (st, some errCacheNotConfigured)
  | some c => c.delete st ctx cacheKey

end FileService

/-- What reaches the service: its operations, and the cache's own background work. -/
inductive Event where
  | getFile (ctx : Option GoError) (now : Int) (r : FileRequest)
  | clearCache (ctx : Option GoError)
  | deleteFromCache (ctx : Option GoError) (cacheKey : String)
  | tick (now : Int)

namespace FileService

variable {σ : Type} (s : FileService σ) (gz : GzipReader) (sniff : Bytes → String)

/-- The cache state after one event. -/
def step (st : σ) : Event → σ
  | .getFile ctx now r => (s.getFile gz sniff st ctx now r).1
  | .clearCache ctx => (s.clearCache st ctx).1
  | .deleteFromCache ctx key => (s.deleteFromCache st ctx key).1
  | .tick now =>
    match s.cache with
    | some c => c.tick st now
    | none => st

/-- The cache state after a run of events. -/
def run (st : σ) (evs : List Event) : σ := evs.foldl (s.step gz sniff) st

/-! ### The pipeline -/

theorem uncached_getFile (m : Manager) (ctx : Option GoError) (now : Int) (r : FileRequest) :
    ((uncached m).getFile gz sniff () ctx now r).2 =
      match r.validate with
      | some e => .error e
      | none => (uncached m).fetch gz sniff ctx r now := by
  unfold getFile
  split <;> rfl

theorem fetch_metadata {ctx : Option GoError} {r : FileRequest} {now : Int} {g : File}
    (h : s.fetch gz sniff ctx r now = .ok g) :
    ∃ m, g.metadata = some m := by
  unfold fetch at h
  split at h
  · cases h
  · split at h
    · cases h
    · cases h; exact ⟨_, rfl⟩

theorem fetch_of_decrypted {ctx : Option GoError} {r : FileRequest} {now : Int} {client : RPCClient}
    {raw : Bytes} (hclient : s.getClient r.chainId = .ok client) (hdec : decryptData client ctx r.txid r.evk = .ok raw) :
    s.fetch gz sniff ctx r now = .ok ⟨r.txid, r.chainId, s.decompressor.mustDecompress gz raw,
      some (detectType sniff (s.decompressor.mustDecompress gz raw) r.filename), now⟩ := by
  simp only [fetch, hclient, hdec]
  rfl

/-! ### `GetFile`, case by case -/

section Cases

variable {st : σ} {ctx : Option GoError} {now : Int} {r : FileRequest}

theorem getFile_of_invalid {e : GoError} (hv : r.validate = some e) :
    s.getFile gz sniff st ctx now r = (st, .error e) := by
  simp [getFile, hv]

theorem getFile_of_no_cache (hv : r.validate = none) (hu : r.useCache = false) :
    s.getFile gz sniff st ctx now r = (st, s.fetch gz sniff ctx r now) := by
  simp only [getFile, hv, hu]
  split
  · contradiction
  · rfl

variable {c : Cache σ} (hc : s.cache = some c) (hv : r.validate = none) (hu : r.useCache = true)
include hc hv hu

theorem getFile_of_hit {st₁ : σ} {cached : File} (hg : c.get st ctx now r.cacheKey = (st₁, .ok cached)) :
    s.getFile gz sniff st ctx now r = (st₁, .ok cached) := by
  simp [getFile, hv, hc, hu, hg]

theorem getFile_of_miss {st₁ : σ} {e' : GoError} (hg : c.get st ctx now r.cacheKey = (st₁, .error e')) :
    s.getFile gz sniff st ctx now r =
      match s.fetch gz sniff ctx r now with
      | .error e => (st₁, .error e)
      | .ok file => ((c.set st₁ none now r.cacheKey file (24 * hour)).1, .ok file) := by
  simp [getFile, hv, hc, hu, hg]

end Cases

theorem getFile_snd_of_miss {st : σ} {ctx : Option GoError} {now : Int} {r : FileRequest}
    (hv : r.validate = none)
    (hmiss : ∀ c, s.cache = some c → r.useCache = true → (c.get st ctx now r.cacheKey).2.toBool = false) :
    (s.getFile gz sniff st ctx now r).2 = s.fetch gz sniff ctx r now := by
  simp only [getFile, hv]
  split
  · next c hc hu =>
    rcases hg : c.get st ctx now r.cacheKey with ⟨st₁, e | cached⟩
    · simp only
      split <;> (rename_i h; exact h.symm)
    · have := hmiss c hc hu
      rw [hg] at this
      cases this
  · rfl

/-- What one `GetFile` through a cache can do: pass, hit, or miss and fill. -/
theorem getFile_cases {c : Cache σ} (hc : s.cache = some c) (st : σ) (ctx : Option GoError) (now : Int)
    (r : FileRequest) :
    ((s.getFile gz sniff st ctx now r).1 = st ∧ ∀ f, (s.getFile gz sniff st ctx now r).2 = .ok f →
      r.validate = none ∧ s.fetch gz sniff ctx r now = .ok f) ∨
    (r.validate = none ∧ (s.getFile gz sniff st ctx now r).1 = (c.get st ctx now r.cacheKey).1 ∧
      ∀ f, (s.getFile gz sniff st ctx now r).2 = .ok f → (c.get st ctx now r.cacheKey).2 = .ok f) ∨
    (r.validate = none ∧ ∃ file, s.fetch gz sniff ctx r now = .ok file ∧ s.getFile gz sniff st ctx now r =
      ((c.set (c.get st ctx now r.cacheKey).1 none now r.cacheKey file (24 * hour)).1, .ok file)) := by
  cases hv : r.validate with
  | some e => exact .inl (by simp [getFile_of_invalid s gz sniff hv])
  | none =>
    cases hu : r.useCache with
    | false => exact .inl (by simp [getFile_of_no_cache s gz sniff hv hu])
    | true =>
      rcases hg : c.get st ctx now r.cacheKey with ⟨st₁, res⟩
      cases res with
      | ok cached => exact .inr (.inl (by simp [getFile_of_hit s gz sniff hc hv hu hg]))
      | error e' =>
        have h := getFile_of_miss s gz sniff hc hv hu hg
        cases hf : s.fetch gz sniff ctx r now with
        | error e => exact .inr (.inl (by simp [h, hf]))
        | ok file => exact .inr (.inr ⟨rfl, file, rfl, by simp [h, hf]⟩)

/-! ### The cache key -/

theorem validate_patterns {r : FileRequest} (h : r.validate = none) :
    txidPattern r.txid = true ∧ chainIDPattern r.chainId = true := by
  simp only [FileRequest.validate, Option.orElse_eq_none, FileRequest.check_eq_none,
    Bool.not_eq_false'] at h
  exact ⟨h.2.2.1, h.2.2.2.2.2.1⟩

theorem chainId_ne_empty {r : FileRequest} (h : r.validate = none) : r.chainId ≠ "" := fun he =>
  absurd (he ▸ (validate_patterns h).2) (by decide)

theorem getClient_of_validate {r : FileRequest} (hv : r.validate = none) :
    s.getClient r.chainId = s.chainManager.getChain r.chainId :=
  if_neg (chainId_ne_empty hv)

theorem colon_not_mem_chainId {r : FileRequest} (h : r.validate = none) : ':' ∉ r.chainId.data := by
  have hall := (Bool.and_eq_true _ _).mp (validate_patterns h).2
  exact fun hc => absurd (List.all_eq_true.mp hall.2 ':' hc) (by decide)

theorem txid_length {r : FileRequest} (h : r.validate = none) : r.txid.data.length = 64 := by
  have hp := (validate_patterns h).1
  simp only [txidPattern, Bool.and_eq_true, beq_iff_eq] at hp
  exact hp.1

theorem append_colon_inj : ∀ {a b x y : List Char}, ':' ∉ a → ':' ∉ b →
    a ++ ':' :: x = b ++ ':' :: y → a = b ∧ x = y
  | [], [], _, _, _, _, h => ⟨rfl, (List.cons.inj h).2⟩
  | [], _ :: _, _, _, _, hb, h => absurd ((List.cons.inj h).1 ▸ List.mem_cons_self _ _) hb
  | _ :: _, [], _, _, ha, _, h => absurd ((List.cons.inj h).1 ▸ List.mem_cons_self _ _) ha
  | c :: a, d :: b, _, _, ha, hb, h => by
    obtain ⟨hcd, h⟩ := List.cons.inj h
    obtain ⟨rfl, rfl⟩ := append_colon_inj (fun h' => ha (List.mem_cons_of_mem _ h'))
      (fun h' => hb (List.mem_cons_of_mem _ h')) h
    exact ⟨hcd ▸ rfl, rfl⟩

/-- Between valid requests the cache key fixes the chain, the txid and whether an `evk` was given. -/
theorem cacheKey_source {r r' : FileRequest} (hv : r.validate = none) (hv' : r'.validate = none)
    (h : r.cacheKey = r'.cacheKey) :
    r.chainId = r'.chainId ∧ r.txid = r'.txid ∧ (r.evk = "" ↔ r'.evk = "") := by
  have hd := congrArg String.data h
  have hl := txid_length hv
  have hl' := txid_length hv'
  unfold FileRequest.cacheKey at hd
  split_ifs at hd with he he' he' <;>
    simp only [String.data_append, List.append_assoc, List.singleton_append] at hd <;>
    obtain ⟨hc, ht⟩ := append_colon_inj (colon_not_mem_chainId hv) (colon_not_mem_chainId hv') hd
  · exact ⟨String.ext hc, String.ext (List.append_inj ht (hl.trans hl'.symm)).1, by simp [he, he']⟩
  · have := congrArg List.length ht
    simp [hl, hl'] at this
  · have := congrArg List.length ht
    simp [hl, hl'] at this
  · exact ⟨String.ext hc, String.ext ht, by simp at he he'; simp [he, he']⟩

/-! ### Along a run -/

/-- Every stored entry is the pipeline's answer to a valid request of the history `evs` with the
entry's key. -/
def Fetched (evs : List Event) (A : Store) : Prop :=
  ∀ k e, A k = some e → ∃ ctx₀ t₀ r₀, Event.getFile ctx₀ t₀ r₀ ∈ evs ∧ r₀.validate = none ∧
    r₀.cacheKey = k ∧ s.fetch gz sniff ctx₀ r₀ t₀ = .ok e.file

/-- The cache state refines, through `R`, a store of entries fetched during `evs`. -/
def Inv (R : σ → Store → Prop) (evs : List Event) (st : σ) : Prop :=
  ∃ A, R st A ∧ s.Fetched gz sniff evs A

variable {s gz sniff}

theorem Fetched.mono {evs evs' : List Event} {A : Store} (h : s.Fetched gz sniff evs A)
    (hsub : evs ⊆ evs') : s.Fetched gz sniff evs' A := by
  intro k e he
  obtain ⟨ctx₀, t₀, r₀, hmem, hrest⟩ := h k e he
  exact ⟨ctx₀, t₀, r₀, hsub hmem, hrest⟩

theorem Fetched.sub {evs : List Event} {A A' : Store} (h : s.Fetched gz sniff evs A)
    (hsub : ∀ k e, A' k = some e → A k = some e) : s.Fetched gz sniff evs A' :=
  fun k e he => h k e (hsub k e he)

section Step

variable {c : Cache σ} {R : σ → Store → Prop} {agree : Stored → File → Prop}

theorem getFile_inv (hc : s.cache = some c) (hR : c.Refines R agree) {evs : List Event} {st : σ}
    (ctx : Option GoError) (now : Int) (r : FileRequest) (h : s.Inv gz sniff R evs st) :
    s.Inv gz sniff R (evs ++ [.getFile ctx now r]) (s.getFile gz sniff st ctx now r).1 := by
  obtain ⟨A, hA, hF⟩ := h
  have hF' := hF.mono (List.subset_append_left evs [.getFile ctx now r])
  have hget : R (c.get st ctx now r.cacheKey).1 A := by
    simpa only [Store.apply_get] using hR.step st A ⟨ctx, now, .get r.cacheKey⟩ hA
  rcases getFile_cases s gz sniff hc st ctx now r with ⟨hst, -⟩ | ⟨-, hst, -⟩ | ⟨hv, file, hf, hgf⟩
  · exact ⟨A, by rw [hst]; exact hA, hF'⟩
  · exact ⟨A, by rw [hst]; exact hget, hF'⟩
  · rw [hgf]
    refine ⟨_, hR.step _ A ⟨none, now, .set r.cacheKey file (24 * hour)⟩ hget, fun k e he => ?_⟩
    by_cases hk : k = r.cacheKey
    · subst hk
      simp only [Store.apply, Function.update_same, Option.some.injEq] at he
      subst he
      exact ⟨ctx, now, r, List.mem_append_right _ (List.mem_singleton_self _), hv, rfl, hf⟩
    · simp only [Store.apply, Function.update_noteq hk] at he
      exact hF' k e he

theorem step_inv (hc : s.cache = some c) (hR : c.Refines R agree) {evs : List Event} {st : σ}
    (ev : Event) (h : s.Inv gz sniff R evs st) :
    s.Inv gz sniff R (evs ++ [ev]) (s.step gz sniff st ev) := by
  obtain ⟨A, hA, hF⟩ := h
  have hF' := hF.mono (List.subset_append_left evs [ev])
  cases ev with
  | getFile ctx now r => exact getFile_inv hc hR ctx now r ⟨A, hA, hF⟩
  | clearCache ctx =>
    have hs : s.step gz sniff st (.clearCache ctx) = c.step st ⟨ctx, 0, .clear⟩ := by
      simp [step, clearCache, hc, Cache.step]
    refine ⟨_, hs ▸ hR.step st A ⟨ctx, 0, .clear⟩ hA, hF'.sub fun k e he => ?_⟩
    cases ctx <;> simp_all [Store.apply]
  | deleteFromCache ctx key =>
    have hs : s.step gz sniff st (.deleteFromCache ctx key) = c.step st ⟨ctx, 0, .delete key⟩ := by
      simp [step, deleteFromCache, hc, Cache.step]
    refine ⟨_, hs ▸ hR.step st A ⟨ctx, 0, .delete key⟩ hA, hF'.sub fun k e he => ?_⟩
    cases ctx with
    | some _ => exact he
    | none =>
      by_cases hk : k = key
      · subst hk; simp [Store.apply] at he
      · simpa [Store.apply, Function.update_noteq hk] using he
  | tick now =>
    have := hR.step st A ⟨none, now, .tick⟩ hA
    rw [Store.apply_tick] at this
    exact ⟨A, by simpa [step, hc, Cache.step] using this, hF'⟩

theorem run_inv (hc : s.cache = some c) (hR : c.Refines R agree) (evs : List Event) :
    ∀ (pre : List Event) (st : σ), s.Inv gz sniff R pre st →
      s.Inv gz sniff R (pre ++ evs) (s.run gz sniff st evs) := by
  induction evs with
  | nil => exact fun pre st h => by simpa [run] using h
  | cons ev evs ih =>
    intro pre st h
    have := ih (pre ++ [ev]) _ (step_inv hc hR ev h)
    simpa [run] using this

end Step

/-- A response of a refining cached service: the pipeline's own answer, or an earlier request's hit. -/
theorem getFile_ok_of_run {c : Cache σ} {R : σ → Store → Prop} (hc : s.cache = some c)
    (hR : c.Refines R Agrees) {st₀ : σ} (h₀ : R st₀ fun _ => none) (evs : List Event)
    (ctx : Option GoError) (now : Int) (r : FileRequest) (f : File)
    (hok : (s.getFile gz sniff (s.run gz sniff st₀ evs) ctx now r).2 = .ok f) :
    (r.validate = none ∧ s.fetch gz sniff ctx r now = .ok f) ∨
    (∃ st₁, c.get (s.run gz sniff st₀ evs) ctx now r.cacheKey = (st₁, .ok f)) ∧
    ∃ ctx₀ t₀ r₀ g₀, Event.getFile ctx₀ t₀ r₀ ∈ evs ∧ r₀.chainId = r.chainId ∧ r₀.txid = r.txid ∧
      (r₀.evk = "" ↔ r.evk = "") ∧ r₀.validate = none ∧ s.fetch gz sniff ctx₀ r₀ t₀ = .ok g₀ ∧
      f.content = g₀.content ∧ f.metadata = g₀.metadata := by
  obtain ⟨A, hA, hF⟩ := run_inv hc hR evs [] st₀ ⟨_, h₀, fun _ _ he => by simp at he⟩
  rcases getFile_cases s gz sniff hc (s.run gz sniff st₀ evs) ctx now r with
    ⟨-, hpipe⟩ | ⟨hv, -, hhit⟩ | ⟨hv, file, hf, hgf⟩
  · exact .inl (hpipe f hok)
  · rcases hg : c.get (s.run gz sniff st₀ evs) ctx now r.cacheKey with ⟨st₁, res⟩
    obtain rfl : res = .ok f := by simpa only [hg] using hhit f hok
    obtain ⟨e, he, hcontent, hmeta⟩ := hR.get_ok _ A ctx now _ st₁ f hA hg
    obtain ⟨ctx₀, t₀, r₀, hmem, hv₀, hkey, hfetch⟩ := hF _ e he
    obtain ⟨hchain, htxid, hevk⟩ := cacheKey_source hv₀ hv hkey
    obtain ⟨m, hm⟩ := fetch_metadata s gz sniff hfetch
    exact .inr ⟨⟨st₁, rfl⟩, ctx₀, t₀, r₀, e.file, hmem, hchain, htxid, hevk, hv₀, hfetch, hcontent,
      (hmeta m hm).trans hm.symm⟩
  · rw [hgf] at hok
    obtain rfl : file = f := Except.ok.inj hok
    exact .inl ⟨hv, hf⟩

end FileService

end VerusGateway.Service

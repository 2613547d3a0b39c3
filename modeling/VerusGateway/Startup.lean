import VerusGateway.Chain.Config
import VerusGateway.Chain.Manager
import VerusGateway.Cache.Filesystem.Basic
import VerusGateway.Http.Middleware

/-!
# Loading the configuration and starting the gateway

`config.Load` ends with `(*Config).Validate` (`internal/config`); `main` (`cmd/gateway`) then builds
the logger, the cache (`initializeCache`) and the chain manager (`chain.NewManager`), and exits on the
first error. Maps are lists in the order a `range` visits them; every result below holds for every
such order.

* `Config.validate_eq_none_iff`: what `Validate` accepts; `validate_setDefaults`: every default passes
  its own check, and only the chains, which have no default, are left to configure. The default read
  timeout of 10 s is one `setupMiddleware` turns into a negative `Timeout` (`readTimeout_setDefaults`).
* `newManager_spec`: `NewManager` succeeds exactly when some chain is enabled and the default chain,
  if one is named, is an enabled one; it then registers exactly the enabled chains, and the default
  resolves.
* `start_ok_iff`: the configurations on which `main` gets to the server and keeps running.
  `Validate` counts disabled chains and does not ask whether the default is enabled. It admits the
  cache types `memcached` and `multi`, which `initializeCache` refuses, while refusing `none` and the
  empty type, which `initializeCache` would take for no cache. It does not look at
  `cache.cleanup_interval`: a negative one reaches `NewFilesystemCache`, whose cleanup goroutine then
  panics in `time.NewTicker` and ends the process. So `Validate` accepts configurations on which
  `main` never serves, and no configuration it accepts runs the gateway without a cache.
-/

namespace VerusGateway.Startup

open Chain Cache Crypto

/-- `config.ServerConfig`, with the port `Validate` checks, the read timeout `setupMiddleware` reads
and the shutdown timeout `main` reads. -/
structure ServerConfig where
  port : Int
  readTimeout : Int
  shutdownTimeout : Int

/-- `config.ChainsConfig`: the default chain's id and the chains by id. -/
structure ChainsConfig where
  default : String
  chains : List (String × ChainConfig)

/-- `config.CacheConfig`, with the fields `Validate` and `initializeCache` read. -/
structure CacheConfig where
  type : String
  dir : String
  maxSize : Int
  ttl : Int
  cleanupInterval : Int

/-- `config.LoggingConfig`, with the fields `Validate` and `logger.New` read. -/
structure LoggingConfig where
  level : String
  output : String
  filePath : String

/-- `config.Config`. -/
structure Config where
  server : ServerConfig
  chains : ChainsConfig
  cache : CacheConfig
  logging : LoggingConfig

/-! ## `Validate` and `Load` -/

/-- The keys of `validCacheTypes`. -/
def validCacheTypes : List String := ["filesystem", "redis", "memcached", "multi"]

/-- The keys of `validLevels`. -/
def validLevels : List String := ["debug", "info", "warn", "error"]

/-- The loop of `Validate` over the chains: the first chain that `ChainConfig.Validate` refuses. -/
def validateChains : List (String × ChainConfig) → Option GoError
  | [] => none
  | (id, chain) :: rest =>
    match chain.validate id with
    | some e => some (.wrap ("invalid chain config for '" ++ id ++ "'") e)
    | none => validateChains rest

/-- `(*Config).Validate`. -/
def Config.validate (c : Config) : Option GoError :=
  if c.server.port < 1 ∨ c.server.port > 65535 then
    some (.other ("invalid server port: " ++ toString c.server.port))
  else if c.chains.chains.isEmpty then some (.other "no chains configured")
  else if c.chains.default ≠ "" ∧ (c.chains.chains.lookup c.chains.default).isNone then
    some (.other ("default chain '" ++ c.chains.default ++ "' not found in chains"))
  else
    match validateChains c.chains.chains with
    | some e => some e
    | none =>
      if c.cache.type ∉ validCacheTypes then some (.other ("invalid cache type: " ++ c.cache.type))
      else if c.logging.level ∉ validLevels then
        some (.other ("invalid log level: " ++ c.logging.level))
      else none

/-- `setDefaults`, for the fields of the model: the values `Load` starts from before the file and the
environment override them. No chain is configured by default. -/
def setDefaults : Config :=
  ⟨⟨8080, 10 * Cache.second, 30 * Cache.second⟩, ⟨"", []⟩,
    ⟨"filesystem", "./cache", 1024 * 1024 * 1024, 24 * Cache.hour, Cache.hour⟩, ⟨"info", "stdout", ""⟩⟩

/-- `config.Load` once the file and the environment are decoded into `cfg`. -/
def load (cfg : Config) : Except GoError Config :=
  match cfg.validate with
  | some e => .error (.wrap "invalid configuration" e)
  | none => .ok cfg

theorem lookup_isSome_iff {β : Type} {l : List (String × β)} {k : String} :
    (l.lookup k).isSome ↔ ∃ v, (k, v) ∈ l := by
  induction l with
  | nil => simp
  | cons p l ih =>
    obtain ⟨k', v'⟩ := p
    by_cases hk : k = k'
    · subst hk; simp
    · have hne : (k == k') = false := beq_false_of_ne hk
      simp only [List.lookup_cons, hne, ih, List.mem_cons, Prod.mk.injEq, hk, false_and, false_or]

theorem mem_of_lookup_eq_some {β : Type} {l : List (String × β)} {k : String} {v : β}
    (h : l.lookup k = some v) : (k, v) ∈ l := by
  induction l with
  | nil => cases h
  | cons p l ih =>
    obtain ⟨k', v'⟩ := p
    by_cases hk : k = k'
    · subst hk
      simp only [List.lookup_cons_self, Option.some.injEq] at h
      exact h ▸ List.mem_cons_self _ _
    · simp only [List.lookup_cons, beq_false_of_ne hk] at h
      exact List.mem_cons_of_mem _ (ih h)

theorem validateChains_eq_none_iff (l : List (String × ChainConfig)) :
    validateChains l = none ↔ ∀ p ∈ l, p.2.validate p.1 = none := by
  induction l with
  | nil => exact iff_of_true rfl fun _ h => absurd h (List.not_mem_nil _)
  | cons p l ih =>
    obtain ⟨id, chain⟩ := p
    rw [validateChains, List.forall_mem_cons]
    cases h : chain.validate id with
    | some e => exact iff_of_false Option.noConfusion fun hh => Option.noConfusion hh.1
    | none => exact ih.trans (and_iff_right rfl).symm

/-- What `Validate` accepts, check by check. -/
theorem Config.validate_eq_none_iff (c : Config) :
    c.validate = none ↔ (1 ≤ c.server.port ∧ c.server.port ≤ 65535) ∧ c.chains.chains ≠ [] ∧
      (c.chains.default = "" ∨ ∃ cc, (c.chains.default, cc) ∈ c.chains.chains) ∧
      (∀ p ∈ c.chains.chains, p.2.validate p.1 = none) ∧ c.cache.type ∈ validCacheTypes ∧
      c.logging.level ∈ validLevels := by
  have hdef : (c.chains.default ≠ "" ∧ (c.chains.chains.lookup c.chains.default).isNone = true) ↔
      ¬ (c.chains.default = "" ∨ ∃ cc, (c.chains.default, cc) ∈ c.chains.chains) := by
    rw [← lookup_isSome_iff, Option.isNone_iff_eq_none, ← Option.not_isSome_iff_eq_none]
    tauto
  unfold Config.validate
  rw [← validateChains_eq_none_iff]
  by_cases hport : c.server.port < 1 ∨ c.server.port > 65535
  · simp only [hport, if_true, reduceCtorEq, false_iff]; omega
  rw [if_neg hport]
  by_cases hnil : c.chains.chains = []
  · simp [hnil]
  rw [if_neg (by simpa using hnil)]
  by_cases hd : c.chains.default ≠ "" ∧ (c.chains.chains.lookup c.chains.default).isNone = true
  · rw [if_pos hd]
    exact iff_of_false (by simp only [reduceCtorEq, not_false_eq_true]) fun h => hdef.mp hd h.2.2.1
  rw [if_neg hd]
  cases hv : validateChains c.chains.chains with
  | some e => simp
  | none =>
    have hp : 1 ≤ c.server.port ∧ c.server.port ≤ 65535 := by omega
    have hdc := not_not.mp (mt hdef.mpr hd)
    simp only [hp, hnil, hdc, ne_eq, not_false_eq_true, true_and]
    split_ifs with ht hl
    · exact iff_of_true rfl ⟨ht, hl⟩
    · exact iff_of_false id fun h => hl h.2
    · exact iff_of_false id fun h => ht h.1

/-- Every default passes its own check; `Validate` then asks only for valid chains. -/
theorem validate_setDefaults (chains : ChainsConfig) :
    ({ setDefaults with chains := chains }).validate = none ↔ chains.chains ≠ [] ∧
      (chains.default = "" ∨ ∃ cc, (chains.default, cc) ∈ chains.chains) ∧
      ∀ p ∈ chains.chains, p.2.validate p.1 = none := by
  rw [Config.validate_eq_none_iff]
  have hport : 1 ≤ setDefaults.server.port ∧ setDefaults.server.port ≤ 65535 := by decide
  have htype : setDefaults.cache.type ∈ validCacheTypes := by decide
  have hlevel : setDefaults.logging.level ∈ validLevels := by decide
  exact ⟨fun h => ⟨h.2.1, h.2.2.1, h.2.2.2.1⟩, fun h => ⟨hport, h.1, h.2.1, h.2.2, htype, hlevel⟩⟩

/-- The default read timeout is one that `Timeout`'s duration wraps to a negative one. -/
theorem readTimeout_setDefaults :
    2 ^ 63 ≤ setDefaults.server.readTimeout * Cache.second ∧ setDefaults.server.readTimeout * Cache.second < 2 ^ 64 ∧
      Http.Middleware.serverTimeout setDefaults.server.readTimeout < 0 := by
  decide

/-! ## `main` -/

/-- What the start finds outside the gateway: whether `os.MkdirAll` creates a directory, whether the
Redis server answers `PING`, and whether `os.OpenFile` opens a log file. -/
structure Env where
  mkdirAll : String → Option GoError
  ping : Option GoError
  openFile : String → Option GoError

/-- `logger.New`: only a log file that does not open fails it. -/
def loggerNew (cfg : LoggingConfig) (env : Env) : Option GoError :=
  if cfg.output = "file" then env.openFile (if cfg.filePath = "" then "verus-gateway.log" else cfg.filePath)
  else none

/-- The cache `initializeCache` builds, by the configuration it gives the constructor. -/
inductive Backend where
  | filesystem (cfg : FilesystemCacheConfig) (cleanupInterval : Int)
  | redis (cfg : RedisCacheConfig)

/-- `initializeCache`, with the failures of `NewFilesystemCache` (`MkdirAll`) and `NewRedisCache`
(`Ping`); `none` is no cache. -/
def initializeCache (cfg : Config) (env : Env) : Except GoError (Option Backend) :=
  if cfg.cache.type = "filesystem" then
    match env.mkdirAll cfg.cache.dir with
    | some e => .error (.wrap "failed to create cache directory" e)
    | none => .ok (some (.filesystem ⟨cfg.cache.maxSize, cfg.cache.ttl⟩ cfg.cache.cleanupInterval))
  else if cfg.cache.type = "redis" then
    match env.ping with
    | some e => .error (.wrap "failed to connect to Redis" e)
    | none => .ok (some (.redis ⟨cfg.cache.ttl⟩))
  else if cfg.cache.type = "none" ∨ cfg.cache.type = "" then .ok none
  else .error (.other ("unsupported cache type: " ++ cfg.cache.type))

/-- `time.NewTicker(d)`: it panics on a duration that is not positive. -/
def newTicker (d : Int) : Option String :=
  if d ≤ 0 then some "non-positive interval for NewTicker" else none

/-- The panic of the goroutine a cache's constructor starts, if it panics: the file-system cache's
`cleanupLoop` makes a ticker of its cleanup interval, an hour when configured as zero; Redis starts
no goroutine. -/
def Backend.cleanupPanic : Backend → Option String
  | .filesystem _ cleanupInterval => newTicker (if cleanupInterval = 0 then Cache.hour else cleanupInterval)
  | .redis _ => none

/-- How `main`'s start-up ends short of the server: a fatal log of an error, which exits, or the
panic of a goroutine it started, which ends the process. -/
inductive StartFailure where
  | fatal (e : GoError)
  | panic (value : String)

/-- The chains `NewManager` registers: the enabled ones, each with what `DecryptData` answers through
the client `verusrpc.NewClient` builds from its configuration (`connect`). -/
def enabledChains (connect : ChainConfig → RPCClient) (chains : List (String × ChainConfig)) :
    List (String × RPCClient) :=
  chains.filterMap fun p => if p.2.enabled then some (p.1, connect p.2) else none

/-- `chain.NewManager`. Without a default configured it takes the first chain a `range` over the
registered chains visits, here the first registered one. -/
def newManager (cfg : Config) (connect : ChainConfig → RPCClient) : Except GoError Manager :=
  match enabledChains connect cfg.chains.chains with
  | [] => .error (.other "no chains configured")
  | (first, client) :: rest =>
    if cfg.chains.default ≠ "" then
      if (((first, client) :: rest).lookup cfg.chains.default).isSome then
        .ok ⟨(first, client) :: rest, cfg.chains.default⟩
      else .error (.other ("default chain " ++ cfg.chains.default ++ " not found"))
    else .ok ⟨(first, client) :: rest, first⟩

/-- `main` up to serving: `Load`, `logger.New`, `initializeCache` and `initializeChainManager`; how it
fails, or the cache and the chain manager it builds the server from. The cleanup goroutine's panic
ends the process whatever `main` does meanwhile, so it is taken where the goroutine starts. -/
def start (cfg : Config) (env : Env) (connect : ChainConfig → RPCClient) :
    Except StartFailure (Option Backend × Manager) :=
  match load cfg with
  | .error e => .error (.fatal e)
  | .ok cfg =>
    match loggerNew cfg.logging env with
    | some e => .error (.fatal e)
    | none =>
      match initializeCache cfg env with
      | .error e => .error (.fatal e)
      | .ok cache =>
        match cache.bind Backend.cleanupPanic with
        | some p => .error (.panic p)
        | none =>
          match newManager cfg connect with
          | .error e => .error (.fatal e)
          | .ok m => .ok (cache, m)

theorem mem_enabledChains {connect : ChainConfig → RPCClient} {chains : List (String × ChainConfig)}
    {id : String} {client : RPCClient} :
    (id, client) ∈ enabledChains connect chains ↔
      ∃ cc, (id, cc) ∈ chains ∧ cc.enabled = true ∧ connect cc = client := by
  simp only [enabledChains, List.mem_filterMap, Option.ite_none_right_eq_some, Option.some.injEq,
    Prod.mk.injEq, Prod.exists]
  constructor
  · rintro ⟨id', cc, hmem, hen, rfl, rfl⟩; exact ⟨cc, hmem, hen, rfl⟩
  · rintro ⟨cc, hmem, hen, rfl⟩; exact ⟨id, cc, hmem, hen, rfl, rfl⟩

theorem enabledChains_lookup_isSome {connect : ChainConfig → RPCClient}
    {chains : List (String × ChainConfig)} {id : String} :
    ((enabledChains connect chains).lookup id).isSome ↔
      ∃ cc, (id, cc) ∈ chains ∧ cc.enabled = true := by
  rw [lookup_isSome_iff]
  constructor
  · rintro ⟨v, hv⟩
    obtain ⟨cc, hmem, hen, -⟩ := mem_enabledChains.mp hv
    exact ⟨cc, hmem, hen⟩
  · rintro ⟨cc, hmem, hen⟩
    exact ⟨connect cc, mem_enabledChains.mpr ⟨cc, hmem, hen, rfl⟩⟩

theorem getChain_eq_ok {m : Manager} {id : String} {client : RPCClient} :
    m.getChain id = .ok client ↔ m.chains.lookup id = some client := by
  unfold Manager.getChain
  cases m.chains.lookup id <;> simp

theorem newManager_ok {cfg : Config} {connect : ChainConfig → RPCClient} {m : Manager}
    (h : newManager cfg connect = .ok m) :
    m.chains = enabledChains connect cfg.chains.chains ∧ (m.chains.lookup m.defaultChain).isSome := by
  unfold newManager at h
  split at h
  · cases h
  · rename_i first client rest hL
    split_ifs at h with hd hs
    · cases h; exact ⟨hL.symm, hs⟩
    · cases h; exact ⟨hL.symm, by simp⟩

theorem newManager_getChain {cfg : Config} {connect : ChainConfig → RPCClient} {m : Manager}
    (h : newManager cfg connect = .ok m) {id : String} {client : RPCClient} (hc : m.getChain id = .ok client) :
    ∃ cc, (id, cc) ∈ cfg.chains.chains ∧ cc.enabled = true ∧ connect cc = client := by
  rw [getChain_eq_ok, (newManager_ok h).1] at hc
  exact mem_enabledChains.mp (mem_of_lookup_eq_some hc)

theorem newManager_ok_iff (cfg : Config) (connect : ChainConfig → RPCClient) :
    (∃ m, newManager cfg connect = .ok m) ↔
      (∃ id cc, (id, cc) ∈ cfg.chains.chains ∧ cc.enabled = true) ∧
        (cfg.chains.default = "" ∨ ∃ cc, (cfg.chains.default, cc) ∈ cfg.chains.chains ∧ cc.enabled = true) := by
  unfold newManager
  rcases hL : enabledChains connect cfg.chains.chains with _ | ⟨⟨first, client⟩, rest⟩
  · simp only [reduceCtorEq, exists_false, false_iff, not_and]
    rintro ⟨id, cc, hmem, hen⟩
    have h := (@mem_enabledChains connect _ _ _).mpr ⟨cc, hmem, hen, rfl⟩
    rw [hL] at h
    cases h
  · have hA : ∃ id cc, (id, cc) ∈ cfg.chains.chains ∧ cc.enabled = true := by
      obtain ⟨cc, hmem, hen, -⟩ := mem_enabledChains.mp (hL ▸ List.mem_cons_self _ _ : (first, client) ∈ _)
      exact ⟨first, cc, hmem, hen⟩
    have hs := @enabledChains_lookup_isSome connect cfg.chains.chains cfg.chains.default
    rw [hL] at hs
    dsimp only
    by_cases hd : cfg.chains.default = ""
    · simp [hd, hA]
    · rw [if_pos (show cfg.chains.default ≠ "" from hd)]
      split_ifs with hl
      · simp only [Except.ok.injEq, exists_eq', true_iff]; exact ⟨hA, .inr (hs.mp hl)⟩
      · simp only [reduceCtorEq, exists_false, false_iff, not_and]
        exact fun _ h => h.elim hd fun he => hl (hs.mpr he)

/-- `NewManager` succeeds exactly when some chain is enabled and a named default is an enabled chain.
The manager it builds then resolves exactly the enabled chains, each to the node of one of its
configurations, and resolves its default. -/
theorem newManager_spec (cfg : Config) (connect : ChainConfig → RPCClient) :
    ((∃ m, newManager cfg connect = .ok m) ↔
      (∃ id cc, (id, cc) ∈ cfg.chains.chains ∧ cc.enabled = true) ∧
        (cfg.chains.default = "" ∨ ∃ cc, (cfg.chains.default, cc) ∈ cfg.chains.chains ∧ cc.enabled = true)) ∧
    ∀ m, newManager cfg connect = .ok m →
      (∀ id, (∃ client, m.getChain id = .ok client) ↔ ∃ cc, (id, cc) ∈ cfg.chains.chains ∧ cc.enabled = true) ∧
      (∀ id client, m.getChain id = .ok client →
        ∃ cc, (id, cc) ∈ cfg.chains.chains ∧ cc.enabled = true ∧ connect cc = client) ∧
      ∃ client, m.getDefaultChain = .ok client := by
  refine ⟨newManager_ok_iff cfg connect, fun m h => ?_⟩
  obtain ⟨hchains, hdef⟩ := newManager_ok h
  refine ⟨fun id => ?_, fun id client hc => ?_, ?_⟩
  · simp only [getChain_eq_ok, hchains]
    rw [← Option.isSome_iff_exists, enabledChains_lookup_isSome]
  · exact newManager_getChain h hc
  · obtain ⟨client, hc⟩ := Option.isSome_iff_exists.mp hdef
    exact ⟨client, getChain_eq_ok.mpr hc⟩

theorem cleanupPanic_filesystem_eq_none_iff (cfg : FilesystemCacheConfig) (ci : Int) :
    (Backend.filesystem cfg ci).cleanupPanic = none ↔ 0 ≤ ci := by
  show newTicker (if ci = 0 then Cache.hour else ci) = none ↔ 0 ≤ ci
  unfold newTicker Cache.hour Cache.second
  split_ifs <;> simp only [reduceCtorEq, false_iff, true_iff, not_le] <;> omega

/-- When `initializeCache` builds a cache whose cleanup goroutine runs. -/
theorem initializeCache_runs_iff (cfg : Config) (env : Env) (h : cfg.cache.type ∈ validCacheTypes) :
    (∃ b, initializeCache cfg env = .ok b ∧ b.bind Backend.cleanupPanic = none) ↔
      cfg.cache.type = "filesystem" ∧ env.mkdirAll cfg.cache.dir = none ∧ 0 ≤ cfg.cache.cleanupInterval ∨
        cfg.cache.type = "redis" ∧ env.ping = none := by
  simp only [validCacheTypes, List.mem_cons, List.mem_singleton, List.not_mem_nil, or_false] at h
  unfold initializeCache
  rcases h with h | h | h | h
  · cases env.mkdirAll cfg.cache.dir <;> simp [h, cleanupPanic_filesystem_eq_none_iff]
  · cases env.ping <;> simp [h, Backend.cleanupPanic]
  · simp [h]
  · simp [h]

theorem start_eq_ok {cfg : Config} {env : Env} {connect : ChainConfig → RPCClient} {b : Option Backend}
    {m : Manager} (h : start cfg env connect = .ok (b, m)) :
    cfg.validate = none ∧ loggerNew cfg.logging env = none ∧ initializeCache cfg env = .ok b ∧
      b.bind Backend.cleanupPanic = none ∧ newManager cfg connect = .ok m := by
  unfold start load at h
  cases hv : cfg.validate with
  | some e => simp only [hv, reduceCtorEq] at h
  | none =>
    cases hl : loggerNew cfg.logging env with
    | some e => simp only [hv, hl, reduceCtorEq] at h
    | none =>
      cases hc : initializeCache cfg env with
      | error e => simp only [hv, hl, hc, reduceCtorEq] at h
      | ok b' =>
        cases hp : b'.bind Backend.cleanupPanic with
        | some p => simp only [hv, hl, hc, hp, reduceCtorEq] at h
        | none =>
          cases hm : newManager cfg connect with
          | error e => simp only [hv, hl, hc, hp, hm, reduceCtorEq] at h
          | ok m' =>
            simp only [hv, hl, hc, hp, hm, Except.ok.injEq, Prod.mk.injEq] at h
            obtain ⟨rfl, rfl⟩ := h
            exact ⟨rfl, rfl, rfl, hp, rfl⟩

theorem start_eq_of {cfg : Config} {env : Env} {connect : ChainConfig → RPCClient} {b : Option Backend}
    {m : Manager} (hv : cfg.validate = none) (hl : loggerNew cfg.logging env = none)
    (hc : initializeCache cfg env = .ok b) (hp : b.bind Backend.cleanupPanic = none)
    (hm : newManager cfg connect = .ok m) : start cfg env connect = .ok (b, m) := by
  simp only [start, load, hv, hl, hc, hp, hm]

/-- `main` gets to the server and keeps running exactly on the configurations that `Validate`
accepts, whose log file opens, whose cache type is `filesystem` with a directory that can be created
and a cleanup interval that is not negative, or `redis` with a server that answers, with some chain
enabled and, if a default is named, the default enabled. -/
theorem start_ok_iff (cfg : Config) (env : Env) (connect : ChainConfig → RPCClient) :
    (∃ r, start cfg env connect = .ok r) ↔
      cfg.validate = none ∧ loggerNew cfg.logging env = none ∧
      (cfg.cache.type = "filesystem" ∧ env.mkdirAll cfg.cache.dir = none ∧ 0 ≤ cfg.cache.cleanupInterval ∨
        cfg.cache.type = "redis" ∧ env.ping = none) ∧
      (∃ id cc, (id, cc) ∈ cfg.chains.chains ∧ cc.enabled = true) ∧
      (cfg.chains.default = "" ∨ ∃ cc, (cfg.chains.default, cc) ∈ cfg.chains.chains ∧ cc.enabled = true) := by
  constructor
  · rintro ⟨⟨b, m⟩, h⟩
    obtain ⟨hv, hl, hc, hp, hm⟩ := start_eq_ok h
    have htype := (cfg.validate_eq_none_iff.mp hv).2.2.2.2.1
    exact ⟨hv, hl, (initializeCache_runs_iff cfg env htype).mp ⟨b, hc, hp⟩,
      (newManager_ok_iff cfg connect).mp ⟨m, hm⟩⟩
  · rintro ⟨hv, hl, hcache, hchains⟩
    have htype := (cfg.validate_eq_none_iff.mp hv).2.2.2.2.1
    obtain ⟨b, hc, hp⟩ := (initializeCache_runs_iff cfg env htype).mpr hcache
    obtain ⟨m, hm⟩ := (newManager_ok_iff cfg connect).mpr hchains
    exact ⟨_, start_eq_of hv hl hc hp hm⟩

/-- A chain with a local node. -/
def vrscChain : ChainConfig := ⟨true, "http://127.0.0.1:27486", "user", "pass", 30 * Cache.second, 3, 0⟩

/-- The defaults with that chain as the only one. -/
def vrscConfig : Config := { setDefaults with chains := ⟨"vrsc", [("vrsc", vrscChain)]⟩ }

/-- A cache type `main` has no case for, and a negative cleanup interval: `Validate` accepts both,
and `main` stops on both. -/
example : ({ vrscConfig with cache.type := "memcached" }).validate.isNone = true ∧
    (start { vrscConfig with cache.type := "memcached" } ⟨fun _ => none, none, fun _ => none⟩
      fun _ _ _ _ => .error (.other "")).isOk = false ∧
    ({ vrscConfig with cache.cleanupInterval := -1 }).validate.isNone = true ∧
    (start { vrscConfig with cache.cleanupInterval := -1 } ⟨fun _ => none, none, fun _ => none⟩
      fun _ _ _ _ => .error (.other "")).isOk = false := by
  decide

end VerusGateway.Startup

import VerusGateway.Cache.Contract

/-!
# The Redis cache

`RedisCache` (`internal/cache/redis.go`) stores under each key the JSON of a `cacheEntry` (content,
metadata, the clock of the `Set`) with the server's `SET`, and reads it back with `GET`. The server is
modelled as the part of Redis the cache uses: a keyspace whose keys carry an optional deadline in
milliseconds, `GET` deleting a key whose deadline has passed (lazy expiry), `SET` with the expiration
as go-redis sends it (`PX` milliseconds, or `KEEPTTL`), `DEL`, `FLUSHDB`, and the active expiry cycle
as the cache's `tick`. The server's clock is the caller's `now`; the JSON round trip of an entry is
the identity, so the keyspace holds entries.

The store is implemented exactly (`redis_refines`): a hit returns the stored content and the stored
metadata, absent metadata included. A `Set` with a positive `ttl`, or with `0` and a positive
configured `ttl`, expires at the server's millisecond `msOf setAt + expireMs ttl`
(`get_after_deadline`, `get_before_deadline`).
-/

namespace VerusGateway.Cache

/-- `cacheEntry`: what `Set` stores under a key. -/
structure CacheEntry where
  content : Bytes
  metadata : Option FileMetadata
  retrievedAt : Int

/-- A key of the keyspace: its value and its deadline in server milliseconds, if it has one. -/
structure RedisValue where
  entry : CacheEntry
  expireAt : Option Int

/-- `RedisCacheConfig`; only `TTL` reaches the cache's behaviour, the rest sets up the connection. -/
structure RedisCacheConfig where
  ttl : Int

/-- `RedisCache` with the keyspace of its database. -/
structure RedisCache where
  ttl : Int
  hits : Nat
  misses : Nat
  db : String → Option RedisValue

namespace RedisCache

/-- `time.Millisecond` in nanoseconds. -/
def millisecond : Int := 1000000

/-- `redis.KeepTTL`. -/
def keepTTL : Int := -1

/-- The server's clock in milliseconds (`mstime`). -/
def msOf (now : Int) : Int := now / millisecond

/-- The milliseconds go-redis sends for a positive expiration (`formatMs`; a whole number of seconds
goes as `EX` seconds, the same deadline). -/
def expireMs (dur : Int) : Int := if dur < millisecond then 1 else dur / millisecond

end RedisCache

open RedisCache in
/-- A key is expired once the server's clock has passed its deadline (`keyIsExpired`). -/
def RedisValue.expired (v : RedisValue) (now : Int) : Bool :=
  match v.expireAt with
  | some deadline => decide (msOf now > deadline)
  | none => false

namespace RedisCache

/-- The deadline `SET key value` gives a key for go-redis's `expiration`: `PX` for a positive one,
`KEEPTTL` keeps the deadline of a live key, anything else clears it. -/
def setExpiry (db : String → Option RedisValue) (now : Int) (key : String) (expiration : Int) :
    Option Int :=
  if expiration > 0 then some (msOf now + expireMs expiration)
  else if expiration = keepTTL then
    match db key with
    | some v => if v.expired now then none else v.expireAt
    | none => none
  else none

/-- `NewRedisCache`: the default `ttl`, over an empty database. -/
def newRedisCache (cfg : RedisCacheConfig) : RedisCache :=
  ⟨if cfg.ttl = 0 then 24 * hour else cfg.ttl, 0, 0, fun _ => none⟩

/-- `(*RedisCache).Get`. A done context fails the command, which counts as a miss. -/
def get (c : RedisCache) (ctx : Option GoError) (now : Int) (key : String) :
    RedisCache × Except GoError File :=
  match ctx with
  | some e => ({ c with misses := c.misses + 1 }, .error (.wrap "redis get failed" e))
  | none =>
    match c.db key with
    | none => ({ c with misses := c.misses + 1 }, .error errCacheMiss)
    | some v =>
      if v.expired now then
        ({ c with misses := c.misses + 1, db := Function.update c.db key none }, .error errCacheMiss)
      else
        ({ c with hits := c.hits + 1 },
          .ok ⟨"", "", v.entry.content, v.entry.metadata, v.entry.retrievedAt⟩)

/-- `(*RedisCache).Set`: a zero `ttl` is the configured one. -/
def set (c : RedisCache) (ctx : Option GoError) (now : Int) (key : String) (file : File) (ttl : Int) :
    RedisCache × Option GoError :=
  let ttl := if ttl = 0 then c.ttl else ttl
  let entry : CacheEntry := ⟨file.content, file.metadata, now⟩
  match ctx with
  | some e => (c, some (.wrap "redis set failed" e))
  | none => ({ c with db := Function.update c.db key (some ⟨entry, setExpiry c.db now key ttl⟩) }, none)

/-- `(*RedisCache).Delete`. -/
def delete (c : RedisCache) (ctx : Option GoError) (key : String) : RedisCache × Option GoError :=
  match ctx with
  | some e => (c, some (.wrap "redis del failed" e))
  | none => ({ c with db := Function.update c.db key none }, none)

/-- `(*RedisCache).Clear`. -/
def clear (c : RedisCache) (ctx : Option GoError) : RedisCache × Option GoError :=
  match ctx with
  | some e => (c, some (.wrap "redis flushdb failed" e))
  | none => ({ c with db := fun _ => none }, none)

/-- The server's active expiry, at its most thorough: every expired key deleted. -/
def expireCycle (c : RedisCache) (now : Int) : RedisCache :=
  { c with db := fun k => (c.db k).bind fun v => if v.expired now then none else some v }

end RedisCache

/-- The Redis realisation of the contract. -/
def redisCache : Cache RedisCache where
  get := RedisCache.get
  set := RedisCache.set
  delete := RedisCache.delete
  clear := RedisCache.clear
  tick := RedisCache.expireCycle

namespace RedisCache

/-! ### `Get`, case by case -/

theorem get_of_none (c : RedisCache) (now : Int) (k : String) (h : c.db k = none) :
    c.get none now k = ({ c with misses := c.misses + 1 }, .error errCacheMiss) := by
  simp [get, h]

theorem get_of_expired (c : RedisCache) (now : Int) (k : String) (v : RedisValue) (h : c.db k = some v)
    (hexp : v.expired now = true) :
    c.get none now k =
      ({ c with misses := c.misses + 1, db := Function.update c.db k none }, .error errCacheMiss) := by
  simp [get, h, hexp]

theorem get_of_live (c : RedisCache) (now : Int) (k : String) (v : RedisValue) (h : c.db k = some v)
    (hlive : v.expired now = false) :
    c.get none now k =
      ({ c with hits := c.hits + 1 }, .ok ⟨"", "", v.entry.content, v.entry.metadata, v.entry.retrievedAt⟩) := by
  simp [get, h, hlive]

/-! ### The stored `Set` of every key -/

/-- The `ttl` a stored `Set` ends up with: its own, or the configured one for `0`. -/
def effectiveTTL (ttl : Int) (e : Stored) : Int := if e.ttl = 0 then ttl else e.ttl

/-- Every key holds the entry of its stored `Set`, and a `Set` with a positive effective `ttl` gave it
its deadline. -/
def Holds (c : RedisCache) (A : Store) : Prop :=
  ∀ k v, c.db k = some v → ∃ e, A k = some e ∧ v.entry = ⟨e.file.content, e.file.metadata, e.setAt⟩ ∧
    (0 < effectiveTTL c.ttl e → v.expireAt = some (msOf e.setAt + expireMs (effectiveTTL c.ttl e)))

theorem Holds.of_sub {c c' : RedisCache} {A : Store} (h : Holds c A) (httl : c'.ttl = c.ttl)
    (hsub : ∀ k v, c'.db k = some v → c.db k = some v) : Holds c' A := by
  intro k v hv
  rw [httl]
  exact h k v (hsub k v hv)

theorem get_sub (c : RedisCache) (ctx : Option GoError) (now : Int) (k : String) :
    ∀ k' v, (c.get ctx now k).1.db k' = some v → c.db k' = some v := by
  intro k' v hv
  unfold get at hv
  split at hv
  · exact hv
  · split at hv
    · exact hv
    · split_ifs at hv
      · dsimp only at hv
        by_cases hk : k' = k
        · subst hk; simp at hv
        · rwa [Function.update_noteq hk] at hv
      · exact hv

theorem set_holds (c : RedisCache) (A : Store) (now : Int) (k : String) (f : File) (ttl : Int)
    (h : Holds c A) : Holds (c.set none now k f ttl).1 (Function.update A k (some ⟨f, now, ttl⟩)) := by
  intro k' v hv
  simp only [set] at hv ⊢
  by_cases hk : k' = k
  · subst hk
    rw [Function.update_same, Option.some.injEq] at hv
    subst hv
    refine ⟨_, Function.update_same _ _ _, rfl, fun hpos => ?_⟩
    simp only [effectiveTTL] at hpos ⊢
    simp [setExpiry, hpos]
  · rw [Function.update_noteq hk] at hv
    obtain ⟨e, he, hv', hexp⟩ := h k' v hv
    exact ⟨e, by rw [Function.update_noteq hk, he], hv', hexp⟩

theorem delete_holds (c : RedisCache) (A : Store) (k : String) (h : Holds c A) :
    Holds (c.delete none k).1 (Function.update A k none) := by
  intro k' v hv
  simp only [delete] at hv ⊢
  by_cases hk : k' = k
  · subst hk; simp at hv
  · rw [Function.update_noteq hk] at hv
    obtain ⟨e, he, hv', hexp⟩ := h k' v hv
    exact ⟨e, by rw [Function.update_noteq hk, he], hv', hexp⟩

theorem step_ttl (c : RedisCache) (call : Call) : (redisCache.step c call).ttl = c.ttl := by
  obtain ⟨ctx, now, op⟩ := call
  cases op with
  | get k => simp only [Cache.step, redisCache, get]; split <;> (try split) <;> (try split_ifs) <;> rfl
  | set k f ttl => simp only [Cache.step, redisCache, set]; split <;> rfl
  | delete k => simp only [Cache.step, redisCache, delete]; split <;> rfl
  | clear => simp only [Cache.step, redisCache, clear]; split <;> rfl
  | tick => rfl

theorem step_holds (c : RedisCache) (A : Store) (call : Call) (h : Holds c A) :
    Holds (redisCache.step c call) (A.apply call) := by
  obtain ⟨ctx, now, op⟩ := call
  have hcycle : Holds (c.expireCycle now) A := h.of_sub rfl fun k v hv => by
    simp only [expireCycle, Option.bind_eq_some] at hv
    obtain ⟨v', hv', hif⟩ := hv
    split_ifs at hif
    exact (Option.some.inj hif) ▸ hv'
  cases ctx with
  | some e =>
    cases op with
    | get k => exact h.of_sub (step_ttl c _) (get_sub c _ now k)
    | tick => exact hcycle
    | _ => exact h
  | none =>
    cases op with
    | get k => exact h.of_sub (step_ttl c _) (get_sub c none now k)
    | set k f ttl => exact set_holds c A now k f ttl h
    | delete k => exact delete_holds c A k h
    | clear => intro k v hv; simp [redisCache, Cache.step, clear] at hv
    | tick => exact hcycle

/-- The Redis cache implements the store exactly, absent metadata included. -/
theorem redis_refines : redisCache.Refines Holds Returns := by
  refine ⟨step_holds, ?_⟩
  intro c A ctx now k c' f' h hget
  simp only [redisCache] at hget
  cases ctx with
  | some e => simp [get] at hget
  | none =>
    cases hv : c.db k with
    | none => simp [get_of_none c now k hv] at hget
    | some v =>
      cases hexp : v.expired now
      · rw [get_of_live c now k v hv hexp, Prod.mk.injEq, Except.ok.injEq] at hget
        obtain ⟨e, he, hentry, -⟩ := h k v hv
        rw [← hget.2]
        exact ⟨e, he, by simp [hentry], by simp [hentry]⟩
      · simp [get_of_expired c now k v hv hexp] at hget

/-! ### Expiry -/

theorem run_ttl (calls : List Call) : ∀ c : RedisCache, (redisCache.run c calls).ttl = c.ttl := by
  induction calls with
  | nil => exact fun _ => rfl
  | cons call calls ih => exact fun c => (ih _).trans (step_ttl c call)

theorem get_after_deadline {c : RedisCache} {A : Store} {k : String} {e : Stored} {t : Int}
    (h : Holds c A) (he : A k = some e) (hpos : 0 < effectiveTTL c.ttl e)
    (ht : msOf e.setAt + expireMs (effectiveTTL c.ttl e) < msOf t) :
    (c.get none t k).2 = .error errCacheMiss ∧ (c.get none t k).1.db k = none := by
  cases hv : c.db k with
  | none => simp [get_of_none c t k hv, hv]
  | some v =>
    obtain ⟨e', he', -, hexp⟩ := h k v hv
    obtain rfl : e' = e := Option.some.inj (he'.symm.trans he)
    have hx : v.expired t = true := by simp [RedisValue.expired, hexp hpos, ht]
    simp [get_of_expired c t k v hv hx]

theorem get_before_deadline {c : RedisCache} {A : Store} {k : String} {e : Stored} {t : Int}
    (h : Holds c A) (he : A k = some e) (hpos : 0 < effectiveTTL c.ttl e)
    (ht : msOf t ≤ msOf e.setAt + expireMs (effectiveTTL c.ttl e)) (hpresent : (c.db k).isSome) :
    ∃ f', (c.get none t k).2 = .ok f' ∧ f'.content = e.file.content := by
  obtain ⟨v, hv⟩ := Option.isSome_iff_exists.mp hpresent
  obtain ⟨e', he', hentry, hexp⟩ := h k v hv
  obtain rfl : e' = e := Option.some.inj (he'.symm.trans he)
  have hx : v.expired t = false := by simp [RedisValue.expired, hexp hpos]; omega
  rw [get_of_live c t k v hv hx]
  exact ⟨_, rfl, by simp [hentry]⟩

end RedisCache

end VerusGateway.Cache

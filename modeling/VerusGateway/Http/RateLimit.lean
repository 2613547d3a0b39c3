import VerusGateway.Domain.Errors
import Mathlib.Logic.Function.Basic
import Mathlib.Data.Int.Order.Basic

/-!
# The rate limiter

`RateLimiter` (`internal/http/middleware/ratelimit.go`): a token bucket per client key. `allow` creates
a bucket with `rate - 1` tokens on a key's first call, refills it to `rate` once `window` has passed
since its last refill, and lets a call through while a token is left. The sweeper
(`cleanupVisitors`, one tick of its loop) deletes the buckets not seen for twice the window. Times are
the monotonic clock in nanoseconds; `time.Time.Sub` saturates to the range of `time.Duration`, and
`window*2` is a multiplication of `time.Duration`, an `int64`, which wraps.

For a key, a run is summed up by the times its granted calls were made (`grants`). While `2 * window`
fits in a `time.Duration`, the bucket keeps an invariant against those times (`KeyInv`): its tokens
count the calls granted since its last refill, the calls of the epoch before lie within `window` before
that refill, and a deleted bucket's calls all lie more than `2 * window` in the past. So at most
`2 * rate` calls are granted in any interval of length `window` (`grants_in_window_le`). A window of
`2^62` nanoseconds or more makes `window*2` wrap to a negative duration, and then every sweep deletes
every bucket (`sweep_overflow_grants`).
-/

namespace VerusGateway.Http

/-- `visitor`: a client's bucket. -/
structure Visitor where
  tokens : Int
  lastSeen : Int
  lastRefill : Int

/-- `RateLimitConfig`; `CleanupInterval` only sets when the sweeps come. -/
structure RateLimitConfig where
  requestsPerWindow : Int
  window : Int
  cleanupInterval : Int

/-- `RateLimiter`: the buckets by client key, the rate and the window. -/
structure RateLimiter where
  visitors : String → Option Visitor
  rate : Int
  window : Int

/-- `NewRateLimiter`, without the sweeper's goroutine: the sweeps are events of the run. -/
def newRateLimiter (config : RateLimitConfig) : RateLimiter :=
  ⟨fun _ => none, config.requestsPerWindow, config.window⟩

/-- The bounds of `time.Duration`. -/
def maxDuration : Int := 9223372036854775807

def minDuration : Int := -9223372036854775808

/-- `t.Sub(u)`: the difference, saturated to `time.Duration`. -/
def timeSub (t u : Int) : Int := max minDuration (min maxDuration (t - u))

/-- An `int64` result of a computation on `int64`s: the value modulo `2^64`, signed. -/
def toInt64 (x : Int) : Int := (x + 9223372036854775808) % 18446744073709551616 - 9223372036854775808

/-- `d * n` on `time.Duration`. -/
def durationMul (d n : Int) : Int := toInt64 (d * n)

namespace RateLimiter

/-- `(*RateLimiter).allow`: the limiter after the call, and whether the call goes through. -/
def allow (rl : RateLimiter) (ip : String) (now : Int) : RateLimiter × Bool :=
  match rl.visitors ip with
  | none => ({ rl with visitors := Function.update rl.visitors ip (some ⟨rl.rate - 1, now, now⟩) }, true)
  | some v =>
    let v := { v with lastSeen := now }
    let v := if timeSub now v.lastRefill ≥ rl.window then { v with tokens := rl.rate, lastRefill := now }
      else v
    if v.tokens > 0 then
      ({ rl with visitors := Function.update rl.visitors ip (some { v with tokens := v.tokens - 1 }) }, true)
    else ({ rl with visitors := Function.update rl.visitors ip (some v) }, false)

/-- One tick of `(*RateLimiter).cleanupVisitors`: the buckets not seen for twice the window deleted. -/
def cleanupVisitors (rl : RateLimiter) (now : Int) : RateLimiter :=
  { rl with visitors := fun ip => (rl.visitors ip).bind fun v =>
      if timeSub now v.lastSeen > durationMul rl.window 2 then none else some v }

end RateLimiter

/-- What reaches the limiter: a call from a client key, or a tick of the sweeper. -/
inductive Event where
  | request (ip : String) (now : Int)
  | sweep (now : Int)

/-- The clock of an event. -/
def Event.now : Event → Int
  | .request _ now => now
  | .sweep now => now

namespace RateLimiter

/-- The limiter after one event. -/
def step (rl : RateLimiter) : Event → RateLimiter
  | .request ip now => (rl.allow ip now).1
  | .sweep now => rl.cleanupVisitors now

/-- The limiter after a run of events. -/
def run (rl : RateLimiter) (evs : List Event) : RateLimiter := evs.foldl step rl

/-- The time of the call an event lets through for the key `k`, if it is one. -/
def granted (rl : RateLimiter) (k : String) : Event → List Int
  | .request ip now => if ip = k ∧ (rl.allow ip now).2 = true then [now] else []
  | .sweep _ => []

/-- The times of the calls for `k` that a run lets through, in order. -/
def grants (rl : RateLimiter) : List Event → String → List Int
  | [], _ => []
  | ev :: evs, k => rl.granted k ev ++ grants (rl.step ev) evs k

/-! ### `allow`, case by case -/

variable {rl : RateLimiter} {ip : String} {now : Int} {v : Visitor}

theorem allow_of_none (h : rl.visitors ip = none) :
    rl.allow ip now =
      ({ rl with visitors := Function.update rl.visitors ip (some ⟨rl.rate - 1, now, now⟩) }, true) := by
  simp [allow, h]

theorem allow_of_refill (h : rl.visitors ip = some v) (hre : rl.window ≤ timeSub now v.lastRefill)
    (hrate : 0 < rl.rate) :
    rl.allow ip now =
      ({ rl with visitors := Function.update rl.visitors ip (some ⟨rl.rate - 1, now, now⟩) }, true) := by
  simp [allow, h, hre, hrate]

theorem allow_of_token (h : rl.visitors ip = some v) (hre : ¬ rl.window ≤ timeSub now v.lastRefill)
    (ht : 0 < v.tokens) :
    rl.allow ip now =
      ({ rl with visitors := Function.update rl.visitors ip (some ⟨v.tokens - 1, now, v.lastRefill⟩) },
        true) := by
  simp [allow, h, hre, ht]

theorem allow_of_empty (h : rl.visitors ip = some v) (hre : ¬ rl.window ≤ timeSub now v.lastRefill)
    (ht : ¬ 0 < v.tokens) :
    rl.allow ip now =
      ({ rl with visitors := Function.update rl.visitors ip (some ⟨v.tokens, now, v.lastRefill⟩) },
        false) := by
  simp [allow, h, hre, ht]


/-! ### Durations within range -/

theorem timeSub_of_le {t u : Int} (h : u ≤ t) : timeSub t u = min maxDuration (t - u) := by
  unfold timeSub minDuration maxDuration; omega

theorem window_le_timeSub_iff {w t u : Int} (hw : w ≤ maxDuration) (h : u ≤ t) :
    w ≤ timeSub t u ↔ w ≤ t - u := by
  rw [timeSub_of_le h]; unfold maxDuration at *; omega

theorem durationMul_two {w : Int} (hw : 0 < w) (hw' : w < 4611686018427387904) : durationMul w 2 = 2 * w := by
  unfold durationMul toInt64; omega

theorem timeSub_gt_iff {w t u : Int} (hw : 0 < w) (hw' : w < 4611686018427387904) (h : u ≤ t) :
    durationMul w 2 < timeSub t u ↔ 2 * w < t - u := by
  rw [durationMul_two hw hw', timeSub_of_le h]; unfold maxDuration; omega

/-! ### The invariant of one key -/

/-- A live bucket against the times `G` of the calls granted to its key, at clock `T`: the tokens
count the calls granted since the last refill, and the calls of the epoch before lie within `w` before
the refill. -/
structure BucketInv (r w T : Int) (v : Visitor) (G : List Int) : Prop where
  tokens_nonneg : 0 ≤ v.tokens
  tokens_lt : v.tokens ≤ r - 1
  refill_le_seen : v.lastRefill ≤ v.lastSeen
  seen_le : v.lastSeen ≤ T
  granted_le_seen : ∀ t ∈ G, t ≤ v.lastSeen
  before_deadline : ∀ t ∈ G, t < v.lastRefill + w
  epoch : (G.countP (fun t => v.lastRefill ≤ t) : Int) = r - v.tokens
  recent : (G.countP (fun t => v.lastRefill - w ≤ t) : Int) ≤ 2 * r - v.tokens

/-- The state of a key: a live bucket, or none and every granted call more than `2w` before `T`. -/
def KeyState (r w T : Int) : Option Visitor → List Int → Prop
  | some v, G => BucketInv r w T v G
  | none, G => ∀ t ∈ G, t + 2 * w < T

/-- The invariant of a key at clock `T`: at most `2r` granted calls in any interval of length `w`,
none after `T`, and the state of its bucket. -/
structure KeyInv (r w T : Int) (b : Option Visitor) (G : List Int) : Prop where
  window : ∀ a, (G.countP (fun t => a ≤ t && t ≤ a + w) : Int) ≤ 2 * r
  past : ∀ t ∈ G, t ≤ T
  state : KeyState r w T b G

section Inv

variable {r w T : Int}

theorem keyInv_empty (hr : 0 ≤ r) (T : Int) : KeyInv r w T none [] :=
  ⟨fun _ => by simp; omega, by simp, by simp [KeyState]⟩

theorem window_append {G : List Int} {now : Int} (hwin : ∀ a, (G.countP (fun t => a ≤ t && t ≤ a + w) : Int) ≤ 2 * r)
    (hrecent : (G.countP (fun t => now - w ≤ t) : Int) ≤ 2 * r - 1) (a : Int) :
    ((G ++ [now]).countP (fun t => a ≤ t && t ≤ a + w) : Int) ≤ 2 * r := by
  rw [List.countP_append, List.countP_singleton]
  by_cases hin : a ≤ now ∧ now ≤ a + w
  · have hle : G.countP (fun t => a ≤ t && t ≤ a + w) ≤ G.countP (fun t => now - w ≤ t) :=
      List.countP_mono_left fun t _ ht => by simp only [Bool.and_eq_true, decide_eq_true_eq] at ht; simp only [decide_eq_true_eq]; omega
    simp only [hin, and_self, decide_True, Bool.and_self, if_true]
    push_cast; omega
  · have := hwin a
    simp only [Bool.and_eq_true, decide_eq_true_eq, hin, if_false]
    simpa using this

theorem KeyInv.mono {b : Option Visitor} {G : List Int} {T' : Int} (h : KeyInv r w T b G) (hT : T ≤ T') :
    KeyInv r w T' b G := by
  refine ⟨h.window, fun t ht => (h.past t ht).trans hT, ?_⟩
  cases b with
  | none => exact fun t ht => lt_of_lt_of_le (h.state t ht) hT
  | some v => exact { h.state with seen_le := h.state.seen_le.trans hT }

/-! ### A call for the key, case by case -/

section Cases

variable {G : List Int} {now : Int}

theorem countP_le_zero {G : List Int} {q : Int → Prop} [DecidablePred q] (h : ∀ t ∈ G, ¬ q t) :
    G.countP (fun t => q t) = 0 :=
  List.countP_eq_zero.mpr fun t ht => by simpa using h t ht

/-- A bucket started afresh at `now`: at most `r` earlier grants lie within `w` of it. -/
theorem bucketInv_restart (hr : 1 ≤ r) (hw : 0 < w) (hbefore : ∀ t ∈ G, t < now)
    (hrecent : (G.countP (fun t => now - w ≤ t) : Int) ≤ r) :
    BucketInv r w now ⟨r - 1, now, now⟩ (G ++ [now]) := by
  have h₀ : G.countP (fun t => now ≤ t) = 0 := countP_le_zero fun t ht => by have := hbefore t ht; omega
  refine ⟨by dsimp only; omega, by dsimp only; omega, le_refl _, le_refl _, ?_, ?_, ?_, ?_⟩
  · intro t ht
    rcases List.mem_append.mp ht with ht | ht
    · exact (hbefore t ht).le
    · rw [List.mem_singleton.mp ht]
  · intro t ht
    rcases List.mem_append.mp ht with ht | ht
    · have := hbefore t ht; dsimp only; omega
    · rw [List.mem_singleton.mp ht]; dsimp only; omega
  · simp only [List.countP_append, List.countP_singleton, h₀, decide_eq_true_eq, if_pos (le_refl now)]
    push_cast; omega
  · simp only [List.countP_append, List.countP_singleton, decide_eq_true_eq,
      if_pos (show now - w ≤ now by omega)]
    push_cast; omega

theorem bucketInv_take {v : Visitor} (hv : BucketInv r w T v G) (hT : T ≤ now)
    (hre : now < v.lastRefill + w) (ht : 0 < v.tokens) :
    BucketInv r w now ⟨v.tokens - 1, now, v.lastRefill⟩ (G ++ [now]) := by
  have hle : v.lastRefill ≤ now := hv.refill_le_seen.trans (hv.seen_le.trans hT)
  have := hv.epoch
  have := hv.recent
  have := hv.tokens_lt
  refine ⟨by dsimp only; omega, by dsimp only; omega, hle, le_refl _, ?_, ?_, ?_, ?_⟩
  · intro t ht
    rcases List.mem_append.mp ht with ht | ht
    · exact (hv.granted_le_seen t ht).trans (hv.seen_le.trans hT)
    · rw [List.mem_singleton.mp ht]
  · intro t ht
    rcases List.mem_append.mp ht with ht | ht
    · exact hv.before_deadline t ht
    · rw [List.mem_singleton.mp ht]; exact hre
  · simp only [List.countP_append, List.countP_singleton, decide_eq_true_eq, if_pos hle]
    push_cast; omega
  · simp only [List.countP_append, List.countP_singleton, decide_eq_true_eq]
    split_ifs <;> push_cast <;> omega

theorem bucketInv_deny {v : Visitor} (hv : BucketInv r w T v G) (hT : T ≤ now) :
    BucketInv r w now ⟨v.tokens, now, v.lastRefill⟩ G :=
  ⟨hv.tokens_nonneg, hv.tokens_lt, hv.refill_le_seen.trans (hv.seen_le.trans hT), le_refl _,
    fun t ht => (hv.granted_le_seen t ht).trans (hv.seen_le.trans hT), hv.before_deadline, hv.epoch,
    hv.recent⟩

end Cases

/-! ### One event, and a run -/

theorem allow_eq (rl : RateLimiter) (ip : String) (now : Int) :
    ∃ b ok, rl.allow ip now = ({ rl with visitors := Function.update rl.visitors ip b }, ok) := by
  unfold allow
  split
  · exact ⟨_, _, rfl⟩
  · dsimp only
    split_ifs <;> exact ⟨_, _, rfl⟩

theorem allow_visitors_ne {rl : RateLimiter} {ip k : String} {now : Int} (hne : k ≠ ip) :
    (rl.allow ip now).1.visitors k = rl.visitors k := by
  obtain ⟨b, ok, h⟩ := allow_eq rl ip now
  rw [h]
  exact Function.update_noteq hne _ _

theorem step_rate (rl : RateLimiter) (ev : Event) : (rl.step ev).rate = rl.rate := by
  cases ev with
  | request ip now => obtain ⟨b, ok, h⟩ := allow_eq rl ip now; simp only [step, h]
  | sweep now => rfl

theorem step_window (rl : RateLimiter) (ev : Event) : (rl.step ev).window = rl.window := by
  cases ev with
  | request ip now => obtain ⟨b, ok, h⟩ := allow_eq rl ip now; simp only [step, h]
  | sweep now => rfl

theorem keyInv_allow_self {rl : RateLimiter} {k : String} {now : Int} {G : List Int} (hr : 1 ≤ r)
    (hw : 0 < w) (hwmax : w ≤ maxDuration) (hrate : rl.rate = r) (hwin : rl.window = w) (hT : T ≤ now)
    (h : KeyInv r w T (rl.visitors k) G) :
    KeyInv r w now ((rl.allow k now).1.visitors k) (G ++ rl.granted k (.request k now)) := by
  subst hrate hwin
  have hpast : ∀ t ∈ G ++ [now], t ≤ now := fun t ht => by
    rcases List.mem_append.mp ht with ht | ht
    · exact (h.past t ht).trans hT
    · rw [List.mem_singleton.mp ht]
  cases hb : rl.visitors k with
  | none =>
    rw [hb] at h
    have hgone : ∀ t ∈ G, t + 2 * rl.window < now := fun t ht => lt_of_lt_of_le (h.state t ht) hT
    have hrecent : G.countP (fun t => now - rl.window ≤ t) = 0 :=
      countP_le_zero fun t ht => by have := hgone t ht; omega
    simp only [granted, allow_of_none hb, and_self, if_true, Function.update_same]
    exact ⟨window_append h.window (by rw [hrecent]; omega), hpast,
      bucketInv_restart hr hw (fun t ht => by have := hgone t ht; omega) (by rw [hrecent]; omega)⟩
  | some v =>
    rw [hb] at h
    have hv : BucketInv rl.rate rl.window T v G := h.state
    have hle : v.lastRefill ≤ now := hv.refill_le_seen.trans (hv.seen_le.trans hT)
    have := hv.epoch
    have := hv.recent
    by_cases hre : rl.window ≤ timeSub now v.lastRefill
    · have hre' := (window_le_timeSub_iff hwmax hle).mp hre
      have hrecent : G.countP (fun t => now - rl.window ≤ t) ≤ G.countP (fun t => v.lastRefill ≤ t) :=
        List.countP_mono_left fun t _ ht => by simp only [decide_eq_true_eq] at ht ⊢; omega
      simp only [granted, allow_of_refill hb hre (by omega), and_self, if_true, Function.update_same]
      have := hv.tokens_nonneg
      exact ⟨window_append h.window (by omega), hpast,
        bucketInv_restart hr hw (fun t ht => by have := hv.before_deadline t ht; omega) (by omega)⟩
    · have hre' : now < v.lastRefill + rl.window := by
        rw [window_le_timeSub_iff hwmax hle] at hre; omega
      by_cases ht : 0 < v.tokens
      · have hrecent : G.countP (fun t => now - rl.window ≤ t) ≤
            G.countP (fun t => v.lastRefill - rl.window ≤ t) :=
          List.countP_mono_left fun t _ ht => by simp only [decide_eq_true_eq] at ht ⊢; omega
        simp only [granted, allow_of_token hb hre ht, and_self, if_true, Function.update_same]
        exact ⟨window_append h.window (by omega), hpast, bucketInv_take hv hT hre' ht⟩
      · simp only [granted, allow_of_empty hb hre ht, Bool.false_eq_true, and_false, if_false,
          Function.update_same, List.append_nil]
        exact ⟨h.window, fun t ht => (h.past t ht).trans hT, bucketInv_deny hv hT⟩

theorem keyInv_sweep {rl : RateLimiter} {k : String} {now : Int} {G : List Int} (hw : 0 < w)
    (hw' : w < 4611686018427387904) (hwin : rl.window = w) (hT : T ≤ now)
    (h : KeyInv r w T (rl.visitors k) G) :
    KeyInv r w now ((rl.cleanupVisitors now).visitors k) G := by
  subst hwin
  have h' := h.mono hT
  simp only [cleanupVisitors]
  cases hb : rl.visitors k with
  | none => rw [hb] at h'; exact h'
  | some v =>
    rw [hb] at h h'
    have hle : v.lastSeen ≤ now := h.state.seen_le.trans hT
    simp only [Option.some_bind]
    split_ifs with hgt
    · have hgt := (timeSub_gt_iff hw hw' hle).mp hgt
      exact ⟨h'.window, h'.past, fun t ht => by have := h.state.granted_le_seen t ht; omega⟩
    · exact h'

theorem keyInv_step {rl : RateLimiter} {k : String} {G : List Int} (ev : Event) (hr : 1 ≤ r) (hw : 0 < w)
    (hw' : w < 4611686018427387904) (hrate : rl.rate = r) (hwin : rl.window = w) (hT : T ≤ ev.now)
    (h : KeyInv r w T (rl.visitors k) G) :
    KeyInv r w ev.now ((rl.step ev).visitors k) (G ++ rl.granted k ev) := by
  cases ev with
  | request ip now =>
    by_cases hk : ip = k
    · subst hk
      exact keyInv_allow_self hr hw (by unfold maxDuration; omega) hrate hwin hT h
    · have hg : rl.granted k (.request ip now) = [] := by simp [granted, hk]
      rw [hg, List.append_nil]
      show KeyInv r w now ((rl.allow ip now).1.visitors k) G
      rw [allow_visitors_ne (Ne.symm hk)]
      exact h.mono hT
  | sweep now => simpa [granted] using keyInv_sweep hw hw' hwin hT h

theorem keyInv_run {k : String} (hr : 1 ≤ r) (hw : 0 < w) (hw' : w < 4611686018427387904) (evs : List Event) :
    ∀ (rl : RateLimiter) (T : Int) (G : List Int), rl.rate = r → rl.window = w →
      List.Chain (· ≤ ·) T (evs.map Event.now) → KeyInv r w T (rl.visitors k) G →
      ∃ T', KeyInv r w T' ((rl.run evs).visitors k) (G ++ rl.grants evs k) := by
  induction evs with
  | nil => exact fun rl T G _ _ _ h => ⟨T, by simpa [run, grants] using h⟩
  | cons ev evs ih =>
    intro rl T G hrate hwin hchain h
    rw [List.map_cons, List.chain_cons] at hchain
    obtain ⟨T', hT'⟩ := ih (rl.step ev) ev.now (G ++ rl.granted k ev) ((step_rate rl ev).trans hrate)
      ((step_window rl ev).trans hwin) hchain.2 (keyInv_step ev hr hw hw' hrate hwin hchain.1 h)
    exact ⟨T', by simpa [run, grants, List.append_assoc] using hT'⟩

end Inv

/-- From an empty limiter, along any run with a clock that does not go back and a window under `2^62`
nanoseconds: every bucket keeps between `0` and `rate` tokens, and no interval of length `window`
holds more than `2 * rate` granted calls of one key. -/
theorem grants_in_window_le (config : RateLimitConfig) (hr : 1 ≤ config.requestsPerWindow)
    (hw : 0 < config.window) (hw' : config.window < 4611686018427387904) (evs : List Event)
    (hmono : (evs.map Event.now).Chain' (· ≤ ·)) (k : String) :
    (∀ a, (((newRateLimiter config).grants evs k).countP (fun t => a ≤ t && t ≤ a + config.window) : Int) ≤
      2 * config.requestsPerWindow) ∧
    ∀ v, ((newRateLimiter config).run evs).visitors k = some v →
      0 ≤ v.tokens ∧ v.tokens ≤ config.requestsPerWindow := by
  cases evs with
  | nil => exact ⟨fun a => by simp [grants]; omega, fun v hv => by simp [run, newRateLimiter] at hv⟩
  | cons ev evs =>
    obtain ⟨T, hT⟩ := keyInv_run (k := k) hr hw hw' (ev :: evs) (newRateLimiter config) ev.now [] rfl rfl
      (List.Chain.cons (le_refl _) hmono) (keyInv_empty (by omega) ev.now)
    refine ⟨fun a => by simpa using hT.window a, fun v hv => ?_⟩
    have hs := hT.state
    rw [hv] at hs
    exact ⟨hs.tokens_nonneg, by have := hs.tokens_lt; omega⟩

/-- Two calls per 10 s window, and a key calling three times within a second with a sweep between. -/
def burstConfig : RateLimitConfig := ⟨2, 10000000000, 60000000000⟩

def burst : List Event := [.request "a" 0, .request "a" 1, .sweep 1, .request "a" 2]

theorem grants_in_window_le_burst :
    1 ≤ burstConfig.requestsPerWindow ∧ 0 < burstConfig.window ∧ burstConfig.window < 4611686018427387904 ∧
      (burst.map Event.now).Chain' (· ≤ ·) ∧
      ((∀ a, (((newRateLimiter burstConfig).grants burst "a").countP
          (fun t => a ≤ t && t ≤ a + burstConfig.window) : Int) ≤ 2 * burstConfig.requestsPerWindow) ∧
        ∀ v, ((newRateLimiter burstConfig).run burst).visitors "a" = some v →
          0 ≤ v.tokens ∧ v.tokens ≤ burstConfig.requestsPerWindow) :=
  have hmono : (burst.map Event.now).Chain' (· ≤ ·) :=
    .cons (by decide) (.cons (by decide) (.cons (by decide) .nil))
  ⟨by decide, by decide, by decide, hmono,
    grants_in_window_le burstConfig (by decide) (by decide) (by decide) burst hmono "a"⟩


/-- One call per key and window of `2^62` nanoseconds, the sweeper ticking every second between the
calls: `window*2` wraps to the least duration, every sweep deletes the bucket, and three calls go
through within two seconds. -/
theorem sweep_overflow_grants :
    (newRateLimiter ⟨1, 4611686018427387904, 1000000000⟩).grants
      [.request "a" 0, .sweep 1000000000, .request "a" 1000000000, .sweep 2000000000, .request "a" 2000000000]
      "a" = [0, 1000000000, 2000000000] := by
  decide

end RateLimiter

end VerusGateway.Http

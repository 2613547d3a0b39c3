import VerusGateway.Chain.Manager

/-!
# Health checks of every chain

`(*Manager).HealthCheck` asks one chain's node for `getinfo`; `HealthCheckAll` starts one goroutine
per chain id that `ListChains` gives. Each goroutine runs `HealthCheck` on its own, then takes the
mutex `mu` and writes its answer to the shared map `results`; `wg.Wait` returns once every goroutine
has called `wg.Done`.

A goroutine takes two atomic steps: its `HealthCheck` (which touches no shared state) and its write
under `mu`. A schedule is the list of goroutines the scheduler runs a step of, in order; a pick of a
finished goroutine, or of no goroutine, does nothing. Spawning all goroutines before the first step
loses no schedule, since the spawning loop writes nothing the goroutines read.

* `step_inv`, `foldl_step_inv`: along every schedule, `results` holds only ids of chains, each with
  the answer its own goroutine computed, and every finished goroutine's answer is in it.
* `healthCheckAll_sound`: whatever the schedule, an entry of `results` is the chain's own
  `HealthCheck`; no update is lost to or duplicated by another goroutine.
* `healthCheckAll_fair`: a schedule that runs every goroutine twice lets `wg.Wait` return, and
  `results` is then exactly the map from every chain id to its `HealthCheck`.
-/

namespace VerusGateway.Chain

open Crypto

namespace Manager

/-- `(*Manager).HealthCheck(ctx, chainID)`. `getInfo` is the error `client.GetInfo(ctx)` returns for a
node, if any. -/
def healthCheck (m : Manager) (getInfo : RPCClient → Option GoError) (chainID : String) : Option GoError :=
  match m.getChain chainID with
  | .error err => some err
  | .ok client =>
    match getInfo client with
    | some err => some (newChainError chainID ("health check failed: " ++ err.text))
    | none => none

/-- `(*Manager).ListChains`, and the loop of `HealthCheckAll` that collects the ids. -/
def listChains (m : Manager) : List String := m.chains.map Prod.fst

end Manager

/-- Where one goroutine of `HealthCheckAll` is. -/
inductive Phase where
  /-- Started; `HealthCheck` has not returned. -/
  | spawned
  /-- `HealthCheck` returned `err`; the write under `mu` is still to come. -/
  | checked (err : Option GoError)
  /-- `results[id] = err` is written and `wg.Done` called. -/
  | done

/-- How far a goroutine is: `0`, `1` or `2` steps. -/
def Phase.rank : Phase → Nat
  | .spawned => 0
  | .checked _ => 1
  | .done => 2

/-- The goroutines of `HealthCheckAll` by their index in the id list, and the shared map `results`:
absent, or present with the stored error (`none` for a `nil` error). -/
structure HealthRun where
  phase : Nat → Phase
  results : String → Option (Option GoError)

namespace HealthRun

/-- Every goroutine started, `results` empty. -/
def start : HealthRun := ⟨fun _ => .spawned, fun _ => none⟩

/-- The scheduler runs one step of goroutine `i`, whose id is `ids[i]` and which computes `check id`. -/
def step (ids : List String) (check : String → Option GoError) (s : HealthRun) (i : Nat) : HealthRun :=
  match ids[i]?, s.phase i with
  | some id, .spawned => { s with phase := fun j => if j = i then .checked (check id) else s.phase j }
  | some id, .checked err =>
    ⟨fun j => if j = i then .done else s.phase j, fun k => if k = id then some err else s.results k⟩
  | _, _ => s

/-- What holds after every schedule: a goroutine between its steps carries its own answer, a
finished one has it in `results`, and `results` holds nothing else. -/
structure Inv (ids : List String) (check : String → Option GoError) (s : HealthRun) : Prop where
  checked : ∀ i id err, ids[i]? = some id → s.phase i = .checked err → err = check id
  recorded : ∀ i id, ids[i]? = some id → s.phase i = .done → s.results id = some (check id)
  results : ∀ k e, s.results k = some e → k ∈ ids ∧ e = check k

section Run

variable {ids : List String} {check : String → Option GoError}

theorem inv_start : Inv ids check start :=
  ⟨fun _ _ _ _ h => Phase.noConfusion h, fun _ _ _ h => Phase.noConfusion h, fun _ _ h => Option.noConfusion h⟩

theorem step_of_none {s : HealthRun} {i : Nat} (h : ids[i]? = none) : s.step ids check i = s := by
  unfold step; rw [h]

theorem step_of_done {s : HealthRun} {i : Nat} (h : s.phase i = .done) : s.step ids check i = s := by
  unfold step; rw [h]; split <;> simp_all

theorem step_of_spawned {s : HealthRun} {i : Nat} {id : String} (hid : ids[i]? = some id)
    (hp : s.phase i = .spawned) :
    s.step ids check i = { s with phase := fun j => if j = i then .checked (check id) else s.phase j } := by
  unfold step; rw [hid, hp]

theorem step_of_checked {s : HealthRun} {i : Nat} {id : String} {err : Option GoError}
    (hid : ids[i]? = some id) (hp : s.phase i = .checked err) :
    s.step ids check i =
      ⟨fun j => if j = i then .done else s.phase j, fun k => if k = id then some err else s.results k⟩ := by
  unfold step; rw [hid, hp]

theorem step_inv (s : HealthRun) (i : Nat) (h : Inv ids check s) : Inv ids check (s.step ids check i) := by
  cases hid : ids[i]? with
  | none => rwa [step_of_none hid]
  | some id =>
    cases hp : s.phase i with
    | done => rwa [step_of_done hp]
    | spawned =>
      rw [step_of_spawned hid hp]
      refine ⟨fun j id' err hj hpj => ?_, fun j id' hj hpj => ?_, h.results⟩ <;> dsimp only at hpj ⊢ <;>
        split_ifs at hpj with hji
      · subst hji
        rw [hid] at hj
        rw [← Option.some.inj hj, ← Phase.checked.inj hpj]
      · exact h.checked j id' err hj hpj
      · exact h.recorded j id' hj hpj
    | checked err =>
      rw [step_of_checked hid hp]
      have herr := h.checked i id err hid hp
      refine ⟨fun j id' err' hj hpj => ?_, fun j id' hj hpj => ?_, fun k e hk => ?_⟩
      · dsimp only at hpj
        split_ifs at hpj
        exact h.checked j id' err' hj hpj
      · dsimp only at hpj ⊢
        split_ifs with hk
        · rw [hk, herr]
        · split_ifs at hpj with hji
          · subst hji; rw [hid] at hj; exact absurd (Option.some.inj hj).symm hk
          · exact h.recorded j id' hj hpj
      · dsimp only at hk
        split_ifs at hk with hki
        · subst hki
          exact ⟨List.getElem?_mem hid, (Option.some.inj hk).symm.trans herr⟩
        · exact h.results k e hk

theorem foldl_step_inv (sched : List Nat) :
    ∀ s, Inv ids check s → Inv ids check (sched.foldl (step ids check) s) := by
  induction sched with
  | nil => exact fun _ h => h
  | cons i sched ih => exact fun s h => ih _ (step_inv s i h)

theorem results_of_done {s : HealthRun} (h : Inv ids check s) (hdone : ∀ i < ids.length, s.phase i = .done)
    (k : String) : s.results k = if k ∈ ids then some (check k) else none := by
  split_ifs with hk
  · obtain ⟨i, hi, rfl⟩ := List.getElem_of_mem hk
    exact h.recorded i _ (List.getElem?_eq_getElem hi) (hdone i hi)
  · cases hr : s.results k with
    | none => rfl
    | some e => exact absurd (h.results k e hr).1 hk

/-- A step of goroutine `j` moves goroutine `j` one phase on, and no other. -/
theorem rank_step (s : HealthRun) (i j : Nat) (hi : i < ids.length) :
    ((s.step ids check j).phase i).rank = if j = i then min 2 ((s.phase i).rank + 1) else (s.phase i).rank := by
  by_cases hji : j = i
  · subst hji
    cases hp : s.phase j <;> simp [step, List.getElem?_eq_getElem hi, hp, Phase.rank]
  · rw [if_neg hji]
    cases hid : ids[j]? with
    | none => rw [step_of_none hid]
    | some id =>
      cases hp : s.phase j <;> simp [step, hid, hp, Ne.symm hji]

theorem rank_foldl (i : Nat) (hi : i < ids.length) (sched : List Nat) :
    ∀ s : HealthRun, min 2 ((s.phase i).rank + sched.count i) ≤
      ((sched.foldl (step ids check) s).phase i).rank := by
  induction sched with
  | nil => exact fun s => min_le_right _ _
  | cons j sched ih =>
    intro s
    refine le_trans ?_ (ih (s.step ids check j))
    rw [rank_step s i j hi, List.count_cons]
    by_cases hji : j = i
    · simp only [hji, if_true, beq_self_eq_true]; omega
    · simp only [hji, if_false, beq_iff_eq]; omega

theorem done_of_rank {p : Phase} (h : 2 ≤ p.rank) : p = .done := by
  cases p <;> simp_all [Phase.rank]

end Run

end HealthRun

namespace Manager

open HealthRun

/-- `HealthCheckAll(ctx)` under the schedule `sched`: one goroutine per id of `ListChains`, each
running `HealthCheck` for its id. -/
def healthCheckAll (m : Manager) (getInfo : RPCClient → Option GoError) (sched : List Nat) : HealthRun :=
  sched.foldl (HealthRun.step m.listChains (m.healthCheck getInfo)) HealthRun.start

/-- Under every schedule, `results` holds only chain ids, each with that chain's own `HealthCheck`
answer: no goroutine's write lands under another id or replaces another's answer. -/
theorem healthCheckAll_sound (m : Manager) (getInfo : RPCClient → Option GoError) (sched : List Nat)
    (k : String) (e : Option GoError) (h : (m.healthCheckAll getInfo sched).results k = some e) :
    k ∈ m.listChains ∧ e = m.healthCheck getInfo k :=
  (foldl_step_inv sched _ inv_start).results k e h

/-- Mainnet and testnet, with a node that does not answer `getinfo`. -/
def twoChains : Manager :=
  ⟨[("vrsc", fun _ _ _ => .error (.other "")), ("vrsctest", fun _ _ _ => .error (.other ""))], "vrsc"⟩

def nodeDown : RPCClient → Option GoError := fun _ => some (.other "connection refused")

/-- The testnet's goroutine runs first, mainnet's then runs both its steps. -/
theorem healthCheckAll_sound_interleaved :
    (twoChains.healthCheckAll nodeDown [1, 0, 0, 1]).results "vrsc" = some (twoChains.healthCheck nodeDown "vrsc") ∧
      "vrsc" ∈ twoChains.listChains ∧ twoChains.healthCheck nodeDown "vrsc" = twoChains.healthCheck nodeDown "vrsc" :=
  ⟨rfl, healthCheckAll_sound twoChains nodeDown [1, 0, 0, 1] "vrsc" _ rfl⟩

/-- A schedule that runs each goroutine at least twice lets `wg.Wait` return, and `results` is then
the map from each chain id to its `HealthCheck`, whatever the order of the steps. -/
theorem healthCheckAll_fair (m : Manager) (getInfo : RPCClient → Option GoError) (sched : List Nat)
    (hfair : ∀ i < m.listChains.length, 2 ≤ sched.count i) :
    (∀ i < m.listChains.length, (m.healthCheckAll getInfo sched).phase i = .done) ∧
      ∀ k, (m.healthCheckAll getInfo sched).results k =
        if k ∈ m.listChains then some (m.healthCheck getInfo k) else none := by
  have hdone : ∀ i < m.listChains.length, (m.healthCheckAll getInfo sched).phase i = .done := by
    intro i hi
    refine done_of_rank (le_trans ?_ (rank_foldl i hi sched start))
    have := hfair i hi
    show 2 ≤ min 2 (0 + sched.count i)
    omega
  exact ⟨hdone, results_of_done (foldl_step_inv sched _ inv_start) hdone⟩

theorem healthCheckAll_fair_interleaved :
    (∀ i < twoChains.listChains.length, 2 ≤ [1, 0, 0, 1].count i) ∧
      (∀ i < twoChains.listChains.length, (twoChains.healthCheckAll nodeDown [1, 0, 0, 1]).phase i = .done) ∧
      ∀ k, (twoChains.healthCheckAll nodeDown [1, 0, 0, 1]).results k =
        if k ∈ twoChains.listChains then some (twoChains.healthCheck nodeDown k) else none :=
  ⟨by decide, healthCheckAll_fair twoChains nodeDown [1, 0, 0, 1] (by decide)⟩

end Manager

end VerusGateway.Chain

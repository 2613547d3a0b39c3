import VerusGateway.Cache.Redis
import VerusGateway.Crypto.Decrypt

/-!
# The JSON-RPC client and its retries

`pkg/verusrpc/client.go`. `NewClient` puts defaults in place of a zero timeout, retry count or
retry delay. `Call` runs `call`, one HTTP exchange with the node, up to `maxRetries + 1` times: it
stops at the first success, at a JSON-RPC error whose code is in the reserved range
`[-32099, -32000]`, and when it finds the context done, either after a failed attempt or during the
wait before the next one.

The exchange of each attempt is a parameter (`Nat → Exchange`), so the results hold for every
sequence of node replies. The context is seen only at `Call`'s checks; a cancellation is the first
check from which the context is done (`Context`). What it does to the HTTP request itself is part of
that attempt's exchange.

`call_attempts` is the law of the loop: `Call` makes `min(j, maxRetries + 1)` attempts, `j` the first
attempt that stops it (`IsMinStop`), and returns what that attempt's exit gives (`Returns`).

`DecryptData` is `Call` of `decryptdata` followed by the JSON decoding of the result, which stays a
parameter (`parse`). It implements the decryptor's `Crypto.RPCClient`: the request's context reaches
`Call`, and on a context that is done when the request arrives `http.Client.Do` fails without reaching
the node, so `DecryptData` returns the context's error after one attempt, whatever the node would
have answered (`decryptData_of_done`).
-/

namespace VerusGateway.Rpc

/-- `verusrpc.Config`. `TLSInsecure` only configures the transport, which is not modelled. -/
structure Config where
  url : String
  user : String
  password : String
  timeout : Int
  maxRetries : Int
  retryDelay : Int

/-- `verusrpc.Client`, without its HTTP client and its metrics. -/
structure Client where
  url : String
  user : String
  password : String
  timeout : Int
  maxRetries : Int
  retryDelay : Int

/-- `NewClient`: a zero timeout, retry count or retry delay takes its default. -/
def newClient (cfg : Config) : Client :=
  ⟨cfg.url, cfg.user, cfg.password,
    if cfg.timeout = 0 then 30 * Cache.second else cfg.timeout,
    if cfg.maxRetries = 0 then 3 else cfg.maxRetries,
    if cfg.retryDelay = 0 then 500 * Cache.RedisCache.millisecond else cfg.retryDelay⟩

/-- `RPCError`: the error object of a JSON-RPC response. -/
structure RPCError where
  code : Int
  message : String

/-- The fields of a decoded `Response` that `call` reads. -/
structure Response where
  result : String
  error : Option RPCError

/-- What one exchange with the node gives `call`: the request cannot be encoded or built, `Do` fails,
the body cannot be read, or a reply with its status code, its body and what `json.Unmarshal` makes
of the body. -/
inductive Exchange where
  | marshalFailed (e : GoError)
  | requestFailed (e : GoError)
  | doFailed (e : GoError)
  | readFailed (e : GoError)
  | reply (statusCode : Nat) (body : String) (decoded : Except GoError Response)

/-- The errors `Call` returns: an `*RPCError` as the node sent it, another error of `call` or the
context's, or the final `fmt.Errorf` around the last failure (`nil` if no attempt was made). -/
inductive CallError where
  | rpc (e : RPCError)
  | go (e : GoError)
  | wrap (text : String) (cause : Option CallError)

/-- The test `err.(*RPCError)` with a code in `[-32099, -32000]`, on which `Call` stops. -/
def CallError.isReserved : CallError → Bool
  | .rpc e => decide (-32099 ≤ e.code ∧ e.code ≤ -32000)
  | _ => false

/-- `(*Client).call`, one attempt, on what its exchange gave. -/
def callOnce : Exchange → Except CallError String
  | .marshalFailed e => .error (.go (.wrap "failed to marshal request" e))
  | .requestFailed e => .error (.go (.wrap "failed to create request" e))
  | .doFailed e => .error (.go (.wrap "http request failed" e))
  | .readFailed e => .error (.go (.wrap "failed to read response" e))
  | .reply statusCode body decoded =>
    if statusCode ≠ 200 then .error (.go (.other ("http error " ++ toString statusCode ++ ": " ++ body)))
    else
      match decoded with
      | .error e => .error (.go (.wrap "failed to unmarshal response" e))
      | .ok resp =>
        match resp.error with
        | some e => .error (.rpc e)
        | none => .ok resp.result

/-- The context of a call as `Call` sees it. `Call` looks at it at its checks, in order: the wait
before attempt `a > 0` is check `2a - 1`, the test after attempt `a` fails is check `2a`. A context
cancelled at some time is done from the first check after it (`cancelAt`) on, and `ctx.Err()` is
then `err`. -/
structure Context where
  cancelAt : Option Nat
  err : GoError

/-- Whether the context is done at a check. -/
def Context.done (ctx : Context) (check : Nat) : Bool :=
  match ctx.cancelAt with
  | some t => decide (t ≤ check)
  | none => false

theorem Context.done_mono {ctx : Context} {k k' : Nat} (hk : k ≤ k') (h : ctx.done k = true) :
    ctx.done k' = true := by
  unfold Context.done at h ⊢
  split at h <;> simp_all only [decide_eq_true_eq, Bool.false_eq_true]
  omega

/-- The text of `Call`'s error after its last attempt. -/
def failedAfter (maxRetries : Int) : String :=
  "rpc call failed after " ++ toString (maxRetries + 1) ++ " attempts"

namespace Client

/-- The loop `for attempt := ...; attempt <= c.maxRetries; attempt++` of `Call` from `attempt` on,
with `fuel` attempts left and the last failure `lastErr`. With the result it returns the number of
attempts made, which is what `call` adds to `requestCount`. -/
def callLoop (c : Client) (ctx : Context) (exchange : Nat → Exchange) :
    Nat → Nat → Option CallError → Except CallError String × Nat
  | 0, attempt, lastErr => (.error (.wrap (failedAfter c.maxRetries) lastErr), attempt)
  | fuel + 1, attempt, _ =>
    if attempt > 0 ∧ ctx.done (2 * attempt - 1) then (.error (.go ctx.err), attempt)
    else
      match callOnce (exchange attempt) with
      | .ok result => (.ok result, attempt + 1)
      | .error e =>
        if ctx.done (2 * attempt) then (.error (.go ctx.err), attempt + 1)
        else if e.isReserved then (.error e, attempt + 1)
        else callLoop c ctx exchange fuel (attempt + 1) (some e)

/-- `(*Client).Call` on the exchanges of its attempts: the result and the number of attempts. -/
def call (c : Client) (ctx : Context) (exchange : Nat → Exchange) : Except CallError String × Nat :=
  c.callLoop ctx exchange (c.maxRetries + 1).toNat 0 none

end Client

/-! ## The law of the loop -/

section Law

variable (c : Client) (ctx : Context) (exchange : Nat → Exchange)

/-- Whether attempt `a` (from 0) stops `Call`: it succeeds, it fails with a reserved-range error, or
the context is found done after it. -/
def stops (a : Nat) : Bool :=
  match callOnce (exchange a) with
  | .ok _ => true
  | .error e => e.isReserved || ctx.done (2 * a + 1)

/-- `n = min(j, N)`, for `j` the first attempt, counted from 1, at which `stop` holds. -/
def IsMinStop (stop : Nat → Bool) (N n : Nat) : Prop :=
  0 < n ∧ n ≤ N ∧ (∀ a, a + 1 < n → stop a = false) ∧ (n = N ∨ stop (n - 1) = true)

/-- What `Call` may return after `n` attempts: the `n`-th attempt's result, its reserved-range error
unchanged, the context's error once found done, or, when `n` is the last allowed attempt, the error
around the `n`-th attempt's failure. -/
def Returns (n : Nat) (r : Except CallError String) : Prop :=
  (∃ v, callOnce (exchange (n - 1)) = .ok v ∧ r = .ok v) ∨
  (∃ e, callOnce (exchange (n - 1)) = .error e ∧ e.isReserved = true ∧ r = .error e) ∨
  (ctx.done (2 * n - 1) = true ∧ r = .error (.go ctx.err)) ∨
  (n = (c.maxRetries + 1).toNat ∧ ∃ e, callOnce (exchange (n - 1)) = .error e ∧
    r = .error (.wrap (failedAfter c.maxRetries) (some e)))

theorem callLoop_snd_of_done (fuel attempt : Nat) (lastErr : Option CallError) (hpos : 0 < attempt)
    (hdone : ctx.done (2 * attempt - 1) = true) :
    (c.callLoop ctx exchange fuel attempt lastErr).2 = attempt := by
  cases fuel with
  | zero => rfl
  | succ fuel => simp only [Client.callLoop, if_pos (And.intro hpos hdone)]

/-- What the loop entered at `attempt` guarantees of its result `r` after `n` attempts in all. -/
def LoopSpec (attempt n : Nat) (r : Except CallError String) : Prop :=
  0 < n ∧ attempt ≤ n ∧ n ≤ (c.maxRetries + 1).toNat ∧
    (∀ a, attempt ≤ a → a + 1 < n → stops ctx exchange a = false) ∧
    (n = (c.maxRetries + 1).toNat ∨ stops ctx exchange (n - 1) = true) ∧ Returns c ctx exchange n r

theorem loopSpec_of_stop {attempt n : Nat} {r : Except CallError String} (hn : 0 < n) (h₁ : attempt ≤ n)
    (h₂ : n ≤ attempt + 1) (hN : n ≤ (c.maxRetries + 1).toNat) (hstop : stops ctx exchange (n - 1) = true)
    (hret : Returns c ctx exchange n r) : LoopSpec c ctx exchange attempt n r :=
  ⟨hn, h₁, hN, fun _ _ h => absurd h (by omega), .inr hstop, hret⟩

theorem callLoop_spec (hN : 0 < (c.maxRetries + 1).toNat) (fuel : Nat) : ∀ (attempt : Nat)
    (lastErr : Option CallError) (r : Except CallError String) (n : Nat),
    c.callLoop ctx exchange fuel attempt lastErr = (r, n) → attempt + fuel = (c.maxRetries + 1).toNat →
    (attempt = 0 ∨ ∃ e, lastErr = some e ∧ callOnce (exchange (attempt - 1)) = .error e) →
    LoopSpec c ctx exchange attempt n r := by
  induction fuel with
  | zero =>
    intro attempt lastErr r n hrun hfuel hlast
    obtain ⟨rfl, rfl⟩ := Prod.mk.inj hrun
    -- out of attempts: the last one failed, and its error is wrapped
    obtain ⟨e, rfl, he⟩ := hlast.resolve_left (by omega)
    exact ⟨by omega, le_rfl, by omega, fun _ _ h => absurd h (by omega), .inl (by omega),
      .inr (.inr (.inr ⟨by omega, e, he, rfl⟩))⟩
  | succ fuel ih =>
    intro attempt lastErr r n hrun hfuel hlast
    simp only [Client.callLoop] at hrun
    by_cases hwait : attempt > 0 ∧ ctx.done (2 * attempt - 1) = true
    · -- the context is found done in the wait: no attempt
      rw [if_pos hwait] at hrun
      obtain ⟨rfl, rfl⟩ := Prod.mk.inj hrun
      obtain ⟨hpos, hw⟩ := hwait
      obtain ⟨e, -, he⟩ := hlast.resolve_left (by omega)
      refine loopSpec_of_stop c ctx exchange hpos le_rfl (by omega) (by omega) ?_ (.inr (.inr (.inl ⟨hw, rfl⟩)))
      simp only [stops, he, show 2 * (attempt - 1) + 1 = 2 * attempt - 1 by omega, hw, Bool.or_true]
    rw [if_neg hwait] at hrun
    cases hcall : callOnce (exchange attempt) with
    | ok v =>
      simp only [hcall] at hrun
      obtain ⟨rfl, rfl⟩ := Prod.mk.inj hrun
      exact loopSpec_of_stop c ctx exchange (by omega) (by omega) le_rfl (by omega)
        (by simp only [stops, Nat.add_sub_cancel, hcall]) (.inl ⟨v, hcall, rfl⟩)
    | error e =>
      simp only [hcall] at hrun
      by_cases hdone : ctx.done (2 * attempt) = true
      · -- the context is found done after the attempt
        rw [if_pos hdone] at hrun
        obtain ⟨rfl, rfl⟩ := Prod.mk.inj hrun
        have hdone' : ctx.done (2 * attempt + 1) = true := Context.done_mono (by omega) hdone
        refine loopSpec_of_stop c ctx exchange (by omega) (by omega) le_rfl (by omega) ?_
          (.inr (.inr (.inl ⟨by rwa [show 2 * (attempt + 1) - 1 = 2 * attempt + 1 by omega], rfl⟩)))
        simp only [stops, Nat.add_sub_cancel, hcall, hdone', Bool.or_true]
      rw [if_neg hdone] at hrun
      by_cases hres : e.isReserved = true
      · -- a reserved-range error is returned as it is
        rw [if_pos hres] at hrun
        obtain ⟨rfl, rfl⟩ := Prod.mk.inj hrun
        exact loopSpec_of_stop c ctx exchange (by omega) (by omega) le_rfl (by omega)
          (by simp only [stops, Nat.add_sub_cancel, hcall, hres, Bool.true_or])
          (.inr (.inl ⟨e, by rwa [Nat.add_sub_cancel], hres, rfl⟩))
      -- any other failure: the next attempt, with this one's error as the last
      rw [if_neg hres] at hrun
      obtain ⟨h1, h2, h3, h4, h5, h6⟩ :=
        ih (attempt + 1) (some e) r n hrun (by omega) (.inr ⟨e, rfl, by rwa [Nat.add_sub_cancel]⟩)
      refine ⟨h1, by omega, h3, fun a ha hlt => ?_, h5, h6⟩
      rcases Nat.eq_or_lt_of_le ha with rfl | ha
      · cases hd : ctx.done (2 * attempt + 1)
        · simp only [stops, hcall, hres, hd, Bool.or_false]
        · -- had the context been found done in the next wait, that would have been the end
          have hn := callLoop_snd_of_done c ctx exchange fuel (attempt + 1) (some e) (by omega)
            (by rwa [show 2 * (attempt + 1) - 1 = 2 * attempt + 1 by omega])
          rw [hrun] at hn
          omega
      · exact h4 a ha hlt

/-- `Call` makes `min(j, maxRetries + 1)` attempts, `j` the first attempt that stops it, and returns
what `Returns` lists for its last attempt. -/
theorem call_attempts (hm : 0 ≤ c.maxRetries) :
    IsMinStop (stops ctx exchange) (c.maxRetries + 1).toNat (c.call ctx exchange).2 ∧
      Returns c ctx exchange (c.call ctx exchange).2 (c.call ctx exchange).1 := by
  obtain ⟨h1, -, h3, h4, h5, h6⟩ := callLoop_spec c ctx exchange (by omega) _ 0 none
    (c.call ctx exchange).1 (c.call ctx exchange).2 rfl (Nat.zero_add _) (.inl rfl)
  exact ⟨⟨h1, h3, fun a => h4 a (Nat.zero_le a), h5⟩, h6⟩

end Law

/-! ## `DecryptData` over `Call` -/

/-- The `error` `Call` returns: `*RPCError` prints `rpc error <code>: <message>`, and the final
`fmt.Errorf` around a `nil` last error prints `%!w(<nil>)`. -/
def CallError.toGoError : CallError → GoError
  | .rpc e => .other ("rpc error " ++ toString e.code ++ ": " ++ e.message)
  | .go e => e
  | .wrap text (some cause) => .wrap text cause.toGoError
  | .wrap text none => .other (text ++ ": %!w(<nil>)")

/-- The request's context as `Call` sees it: done from the first check on when it is done on arrival,
never done while it is live. -/
def Context.ofErr : Option GoError → Context
  | some e => ⟨some 0, e⟩
  | none => ⟨none, .other "context canceled"⟩

/-- The exchange of each attempt under the request's context: on a done context `http.Client.Do` fails
with the `*url.Error` `Post "<url>": <ctx.Err()>` before it reaches the node. -/
def exchangeUnder (url : String) (node : Nat → Exchange) : Option GoError → Nat → Exchange
  | some e => fun _ => .doFailed (.wrap ("Post \"" ++ url ++ "\"") e)
  | none => node

/-- `(*Client).DecryptData`: `Call` of `decryptdata` against the node's exchanges for the txid and the
viewing key, then the `objectdata` string that `parse` reads off the result. -/
def Client.decryptData (c : Client) (node : String → String → Nat → Exchange)
    (parse : String → Except GoError String) : Crypto.RPCClient := fun ctx txid evk =>
  match (c.call (Context.ofErr ctx) (exchangeUnder c.url (node txid evk) ctx)).1 with
  | .error e => .error (.wrap "decryptdata failed" e.toGoError)
  | .ok result => parse result

/-- On a done context `Call` fails before the node, and `DecryptData` with the context's error. -/
theorem Client.decryptData_of_done (c : Client) (hm : 0 ≤ c.maxRetries)
    (node : String → String → Nat → Exchange) (parse : String → Except GoError String) (e : GoError)
    (txid evk : String) : c.decryptData node parse (some e) txid evk = .error (.wrap "decryptdata failed" e) := by
  obtain ⟨n, hn⟩ : ∃ n, (c.maxRetries + 1).toNat = n + 1 := ⟨c.maxRetries.toNat, by omega⟩
  unfold Client.decryptData Client.call
  rw [hn]
  rfl

end VerusGateway.Rpc

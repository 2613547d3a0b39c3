import VerusGateway.Http.RateLimit
import VerusGateway.Cache.Contract
import Mathlib.Algebra.Group.Int

/-!
# The middleware and the server's chain of them

Package `middleware` (`internal/http/middleware`). A middleware reads the request and either calls
`next` with the `http.ResponseWriter` and the request, the request possibly changed
(`Outcome.next`), or answers itself (`Outcome.wrote`). A request is what the middleware read of it:
its method, what `r.Header.Get` returns for each header (the empty string when the request does not
carry it), `RemoteAddr`, whether it came over TLS, and the request id and deadline its context holds.

* `getClientIP` and `RealIP` take the whole `X-Forwarded-For` header as the client's address, whatever
  it holds. `RateLimit` keys the buckets by that text, so requests that each carry a new value each
  get a fresh bucket, and none of them is ever refused (`rateLimit_spoofed_never_refused`).
* `setupMiddleware` (`internal/http/server`) mounts `Timeout` with
  `time.Duration(cfg.Server.ReadTimeout) * time.Second` (`serverTimeout`). `ReadTimeout` already is a
  `time.Duration` in nanoseconds, so the product is the read timeout times `10^9` nanoseconds, in
  `int64`. From about 9.22 s to 18.44 s of read timeout, the default 10 s among them, it wraps to a
  negative duration, and every request leaves the server's middleware with a context whose deadline
  has passed (`serverMiddleware_deadline`).

`serveHTTP` is the whole chain around a route's handler, with `Recoverer` mounted first; `normalizePath`
is the path label of `Metrics`.
-/

namespace VerusGateway.Http

namespace Middleware

/-- `context.DeadlineExceeded`. -/
def deadlineExceeded : GoError := .sentinel "context.DeadlineExceeded" "context deadline exceeded"

/-- An `*http.Request` as the middleware read it. -/
structure Request where
  method : String
  header : String → String
  remoteAddr : String
  tls : Bool
  requestID : Option String
  deadline : Option Int

/-- `r.Context().Err()` at the clock `t`: a context is done from its deadline on. -/
def Request.ctxErr (r : Request) (t : Int) : Option GoError :=
  match r.deadline with
  | some d => if d ≤ t then some deadlineExceeded else none
  | none => none

theorem Request.ctxErr_mono {r : Request} {t t' : Int} (ht : t ≤ t')
    (h : r.ctxErr t = some deadlineExceeded) : r.ctxErr t' = some deadlineExceeded := by
  unfold Request.ctxErr at h ⊢
  split at h
  · rw [if_pos (by split_ifs at h; omega)]
  · cases h

/-- What a middleware leaves in its `http.ResponseWriter`: the header map, the status given to
`WriteHeader`, and the bytes given to `Write`. -/
structure Writer where
  header : String → Option String
  status : Option Nat
  body : String

namespace Writer

/-- A fresh `http.ResponseWriter`. -/
def empty : Writer := ⟨fun _ => none, none, ""⟩

/-- `w.Header().Set(key, value)`. -/
def setHeader (w : Writer) (key value : String) : Writer :=
  { w with header := fun k => if k = key then some value else w.header k }

/-- `w.WriteHeader(statusCode)`: only the first call sets the status. -/
def writeHeader (w : Writer) (statusCode : Nat) : Writer :=
  { w with status := some (w.status.getD statusCode) }

/-- `w.Write(b)`, with the implicit `WriteHeader(200)` when no status was written. -/
def write (w : Writer) (b : String) : Writer :=
  { w with status := some (w.status.getD 200), body := w.body ++ b }

variable (w : Writer) (key value k b : String) (c : Nat)

@[simp] theorem setHeader_header :
    (w.setHeader key value).header k = if k = key then some value else w.header k := rfl
@[simp] theorem setHeader_status : (w.setHeader key value).status = w.status := rfl
@[simp] theorem writeHeader_header : (w.writeHeader c).header = w.header := rfl
@[simp] theorem writeHeader_status : (w.writeHeader c).status = some (w.status.getD c) := rfl
@[simp] theorem write_header : (w.write b).header = w.header := rfl
@[simp] theorem write_status : (w.write b).status = some (w.status.getD 200) := rfl

theorem setHeader_header_self : (w.setHeader key value).header key = some value := if_pos rfl

theorem setHeader_header_ne (h : k ≠ key) : (w.setHeader key value).header k = w.header k := if_neg h

theorem ite_setHeader_header_ne {p : Prop} [Decidable p] (h : k ≠ key) :
    (if p then w.setHeader key value else w).header k = w.header k := by
  split_ifs
  · exact if_neg h
  · rfl

end Writer

/-- What a middleware does with a request: hand it on to `next`, or answer it. -/
inductive Outcome where
  | next (w : Writer) (r : Request)
  | wrote (w : Writer)

/-- The next middleware of a chain, run when the one before calls `next`. -/
def Outcome.andThen (o : Outcome) (m : Writer → Request → Outcome) : Outcome :=
  match o with
  | .next w r => m w r
  | .wrote w => .wrote w

/-- `RequestID`, with the id that `uuid.New()` gives as `fresh`. -/
def requestID (fresh : String) (w : Writer) (r : Request) : Outcome :=
  let id := if r.header "X-Request-ID" = "" then fresh else r.header "X-Request-ID"
  .next (w.setHeader "X-Request-ID" id) { r with requestID := some id }

/-- `getClientIP`: the whole `X-Forwarded-For`, else `X-Real-IP`, else `RemoteAddr`. -/
def getClientIP (r : Request) : String :=
  if r.header "X-Forwarded-For" ≠ "" then r.header "X-Forwarded-For"
  else if r.header "X-Real-IP" ≠ "" then r.header "X-Real-IP"
  else r.remoteAddr

/-- `RealIP`: the whole `X-Forwarded-For`, else `X-Real-IP`, becomes `RemoteAddr`. -/
def realIP (w : Writer) (r : Request) : Outcome :=
  if r.header "X-Forwarded-For" ≠ "" then .next w { r with remoteAddr := r.header "X-Forwarded-For" }
  else if r.header "X-Real-IP" ≠ "" then .next w { r with remoteAddr := r.header "X-Real-IP" }
  else .next w r

theorem realIP_eq (w : Writer) (r : Request) : realIP w r = .next w { r with remoteAddr := getClientIP r } := by
  unfold realIP getClientIP
  split_ifs <;> rfl

/-- `SecurityHeaders`. -/
def securityHeaders (w : Writer) (r : Request) : Outcome :=
  let w := ((((((w.setHeader "X-Content-Type-Options" "nosniff").setHeader "X-Frame-Options" "DENY").setHeader
    "X-XSS-Protection" "1; mode=block").setHeader "Referrer-Policy" "strict-origin-when-cross-origin").setHeader
    "Content-Security-Policy" "default-src 'none'; frame-ancestors 'none'").setHeader
    "Permissions-Policy" "geolocation=(), microphone=(), camera=()")
  let w := if r.tls ∨ r.header "X-Forwarded-Proto" = "https" then
    w.setHeader "Strict-Transport-Security" "max-age=31536000; includeSubDomains; preload" else w
  .next w r

/-- `Timeout(timeout)` for a request that arrives at `now`: `context.WithTimeout` gives the context the
deadline `now + timeout`, or keeps the parent's if that is earlier. -/
def timeout (d now : Int) (w : Writer) (r : Request) : Outcome :=
  .next w { r with deadline := some (match r.deadline with
    | some p => min p (now + d)
    | none => now + d) }

/-- The duration `setupMiddleware` gives `Timeout`: `time.Duration(ReadTimeout) * time.Second`. -/
def serverTimeout (readTimeout : Int) : Int := durationMul readTimeout Cache.second

theorem toInt64_of_lt {x : Int} (h0 : 0 ≤ x) (h : x < 2 ^ 63) : toInt64 x = x := by
  unfold toInt64; omega

theorem toInt64_of_ge {x : Int} (h0 : 2 ^ 63 ≤ x) (h : x < 2 ^ 64) : toInt64 x = x - 2 ^ 64 := by
  unfold toInt64; omega

/-- The server's duration is not positive exactly when the read timeout is zero or the product wraps. -/
theorem serverTimeout_nonpos_iff {rt : Int} (h0 : 0 ≤ rt) (h : rt * Cache.second < 2 ^ 64) :
    serverTimeout rt ≤ 0 ↔ rt = 0 ∨ 2 ^ 63 ≤ rt * Cache.second := by
  have hpos : 0 ≤ rt * Cache.second := Int.mul_nonneg h0 (by decide)
  unfold serverTimeout durationMul
  rcases lt_or_le (rt * Cache.second) (2 ^ 63) with hlt | hge
  · rw [toInt64_of_lt hpos hlt]; unfold Cache.second at *; omega
  · rw [toInt64_of_ge hge h]; omega

/-- The server's own middleware from `setupMiddleware`, in order, for a request that arrives at `now`
with `ReadTimeout = readTimeout`. `Recoverer` only acts on a panic, `Logger` and `Metrics` only record,
and the `cors` and `Compress` handlers mounted after `SecurityHeaders` are go-chi's. -/
def serverMiddleware (readTimeout now : Int) (fresh : String) (w : Writer) (r : Request) : Outcome :=
  (((requestID fresh w r).andThen realIP).andThen (timeout (serverTimeout readTimeout) now)).andThen
    securityHeaders

/-- A request without a deadline leaves with the deadline `now + serverTimeout readTimeout`. -/
theorem serverMiddleware_next (rt now : Int) (fresh : String) (w : Writer) (r : Request)
    (hr : r.deadline = none) :
    ∃ w' r', serverMiddleware rt now fresh w r = .next w' r' ∧ r'.deadline = some (now + serverTimeout rt) :=
  ⟨_, _, by simp only [serverMiddleware, requestID, Outcome.andThen, realIP_eq, timeout, hr]; rfl, rfl⟩

/-- For a read timeout `rt` with `rt · 10^9 < 2^64`, the deadline a request gets from the server's
middleware is not after its arrival exactly when `rt` is zero or `rt · 10^9 ≥ 2^63`: the handlers then
find the context done from the start. -/
theorem serverMiddleware_deadline (rt now : Int) (fresh : String) (w : Writer) (r : Request)
    (hr : r.deadline = none) (h0 : 0 ≤ rt) (h : rt * Cache.second < 2 ^ 64) :
    ∃ w' r', serverMiddleware rt now fresh w r = .next w' r' ∧
      (r'.ctxErr now = some deadlineExceeded ↔ rt = 0 ∨ 2 ^ 63 ≤ rt * Cache.second) := by
  obtain ⟨w', r', hnext, hdl⟩ := serverMiddleware_next rt now fresh w r hr
  refine ⟨w', r', hnext, ?_⟩
  simp only [Request.ctxErr, hdl]
  rw [← serverTimeout_nonpos_iff h0 h]
  split_ifs <;> simp only [true_iff, reduceCtorEq, false_iff] <;> omega

/-- A `GET` that arrives without headers and without a deadline. -/
def plainGet : Request := ⟨"GET", fun _ => "", "203.0.113.7:5555", false, none, none⟩

/-- With the default read timeout of 10 s, `Timeout` gets a negative duration, and a request's context
is done when it arrives. -/
theorem serverMiddleware_deadline_default :
    plainGet.deadline = none ∧ 0 ≤ 10 * Cache.second ∧ 10 * Cache.second * Cache.second < 2 ^ 64 ∧
      serverTimeout (10 * Cache.second) < 0 ∧
      ∃ w' r', serverMiddleware (10 * Cache.second) 0 "id" Writer.empty plainGet = .next w' r' ∧
        (r'.ctxErr 0 = some deadlineExceeded ↔
          10 * Cache.second = 0 ∨ 2 ^ 63 ≤ 10 * Cache.second * Cache.second) :=
  ⟨rfl, by decide, by decide, by decide,
    serverMiddleware_deadline _ _ _ _ _ rfl (by decide) (by decide)⟩

/-- The body `RateLimit` writes with a 429. -/
def rateLimitExceeded : String :=
  "\x7b\"error\":\"RATE_LIMIT_EXCEEDED\",\"message\":\"Rate limit exceeded. Please try again later.\"\x7d"

/-- Every request leaves with the id `RequestID` settled on, in its context and in its header. -/
theorem serverMiddleware_requestID (rt now : Int) (fresh : String) (w : Writer) (r : Request) :
    ∃ w' r', serverMiddleware rt now fresh w r = .next w' r' ∧
      r'.requestID = some (if r.header "X-Request-ID" = "" then fresh else r.header "X-Request-ID") ∧
      w'.header "X-Request-ID" = some (if r.header "X-Request-ID" = "" then fresh else r.header "X-Request-ID") := by
  refine ⟨_, _, by simp only [serverMiddleware, requestID, Outcome.andThen, realIP_eq, timeout]; rfl, rfl, ?_⟩
  simp (disch := decide) only [securityHeaders, Writer.ite_setHeader_header_ne, Writer.setHeader_header_ne,
    Writer.setHeader_header_self]

/-! ### `Recoverer` -/

/-- What a handler leaves behind: it returned, or it panicked, with the writer as it was then. -/
inductive Served where
  | returned (w : Writer)
  | panicked (w : Writer)

/-- `GetRequestID(ctx)`: the id the context holds, else the empty string. -/
def getRequestID (r : Request) : String := r.requestID.getD ""

/-- The body `Recoverer` writes after a panic. -/
def internalError (requestID : String) : String :=
  "\x7b\"error\":\"internal_server_error\",\"message\":\"An internal error occurred\",\"request_id\":\"" ++
    requestID ++ "\"\x7d"

/-- `Recoverer(logger)` around `next`: after a panic, a JSON error with status 500 that names the
request id of the request `Recoverer` itself was given. -/
def recoverer (next : Writer → Request → Served) (w : Writer) (r : Request) : Writer :=
  match next w r with
  | .returned w' => w'
  | .panicked w' =>
    ((w'.setHeader "Content-Type" "application/json").writeHeader 500).write (internalError (getRequestID r))

/-- The chain `setupMiddleware` mounts around a route's handler: `Recoverer` first, then the rest of
the server's middleware, then the handler. -/
def serveHTTP (readTimeout now : Int) (fresh : String) (handler : Writer → Request → Served) (w : Writer)
    (r : Request) : Writer :=
  recoverer (fun w r => match serverMiddleware readTimeout now fresh w r with
    | .next w' r' => handler w' r'
    | .wrote w' => .returned w') w r

/-! ### The path label of `Metrics` -/

/-- `normalizePath(path)`, on the bytes of the path: `len` and `path[:32]` count bytes. -/
def normalizePath (path : Bytes) : Bytes :=
  if path.length > 50 then
    if path.length > 64 then path.take 32 ++ [46, 46, 46] else path
  else path

end Middleware

namespace RateLimiter

open Middleware

/-- `(*RateLimiter).RateLimit()` on a request handled at the clock `now`: the limiter after `allow`, and
what the middleware does. `Retry-After` is `int(rl.window.Seconds())`, the window in whole seconds. -/
def rateLimit (rl : RateLimiter) (now : Int) (w : Writer) (r : Request) : RateLimiter × Outcome :=
  let (rl', allowed) := rl.allow (getClientIP r) now
  if !allowed then
    (rl', .wrote ((((w.setHeader "Content-Type" "application/json").setHeader "Retry-After"
      (toString (rl.window.tdiv Cache.second))).writeHeader 429).write rateLimitExceeded))
  else (rl', .next w r)

/-- What reaches the middleware: a request with the clock it is handled at, or a tick of the
sweeper. -/
inductive Arrival where
  | request (now : Int) (w : Writer) (r : Request)
  | sweep (now : Int)

/-- The request of an arrival, if it is one. -/
def Arrival.request? : Arrival → Option Request
  | .request _ _ r => some r
  | .sweep _ => none

/-- The request of an arrival handed on unchanged, if it is one. -/
def Arrival.passed : Arrival → Option Outcome
  | .request _ w r => some (.next w r)
  | .sweep _ => none

/-- What the middleware does with each request of a run, in order. -/
def serve (rl : RateLimiter) : List Arrival → List Outcome
  | [] => []
  | .request now w r :: as => (rl.rateLimit now w r).2 :: serve (rl.rateLimit now w r).1 as
  | .sweep now :: as => serve (rl.cleanupVisitors now) as

theorem rateLimit_of_none {rl : RateLimiter} {now : Int} {w : Writer} {r : Request}
    (h : rl.visitors (getClientIP r) = none) :
    rl.rateLimit now w r = ((rl.allow (getClientIP r) now).1, .next w r) := by
  simp [rateLimit, allow_of_none h]

theorem cleanupVisitors_of_none {rl : RateLimiter} {now : Int} {k : String} (h : rl.visitors k = none) :
    (rl.cleanupVisitors now).visitors k = none := by
  simp [cleanupVisitors, h]

/-- Requests from pairwise distinct clients without buckets are all handed on. -/
theorem serve_of_fresh (as : List Arrival) : ∀ rl : RateLimiter,
    ((as.filterMap Arrival.request?).map getClientIP).Nodup →
    (∀ r ∈ as.filterMap Arrival.request?, rl.visitors (getClientIP r) = none) →
    rl.serve as = as.filterMap Arrival.passed := by
  induction as with
  | nil => intro _ _ _; rfl
  | cons a as ih =>
    intro rl hnd hfresh
    cases a with
    | request now w r =>
      simp only [List.filterMap_cons, Arrival.request?, List.map_cons, List.nodup_cons,
        List.mem_map, List.mem_cons, forall_eq_or_imp] at hnd hfresh
      rw [serve, rateLimit_of_none hfresh.1, List.filterMap_cons, Arrival.passed]
      refine congrArg _ (ih _ hnd.2 fun r' hr' => ?_)
      rw [allow_visitors_ne fun he => hnd.1 ⟨r', hr', he⟩]
      exact hfresh.2 r' hr'
    | sweep now =>
      exact ih _ hnd fun r' hr' => cleanupVisitors_of_none (hfresh r' hr')

/-- From a new limiter, whatever its rate and window: when every request of a run carries an
`X-Forwarded-For` header and no two carry the same one, every request is handed on and none is
refused. -/
theorem rateLimit_spoofed_never_refused (config : RateLimitConfig) (as : List Arrival)
    (hxff : ∀ r ∈ as.filterMap Arrival.request?, r.header "X-Forwarded-For" ≠ "")
    (hdistinct : ((as.filterMap Arrival.request?).map fun r => r.header "X-Forwarded-For").Nodup) :
    (newRateLimiter config).serve as = as.filterMap Arrival.passed := by
  have hip : ∀ r ∈ as.filterMap Arrival.request?, getClientIP r = r.header "X-Forwarded-For" :=
    fun r hr => if_pos (hxff r hr)
  refine serve_of_fresh as _ ?_ fun _ _ => rfl
  rwa [List.map_congr_left hip]

/-- A request from one address with the `X-Forwarded-For` value `xff`. -/
def forwardedFor (xff : String) : Request :=
  ⟨"GET", fun h => if h = "X-Forwarded-For" then xff else "", "203.0.113.7:5555", false, none, none⟩

/-- Two requests at the same instant from one address, under one call per window: each names another
forwarder, and both go through. -/
theorem rateLimit_spoofed_two_requests :
    (∀ r ∈ [Arrival.request 0 .empty (forwardedFor "198.51.100.1"),
        .request 0 .empty (forwardedFor "198.51.100.2")].filterMap Arrival.request?,
        r.header "X-Forwarded-For" ≠ "") ∧
      (([Arrival.request 0 .empty (forwardedFor "198.51.100.1"),
        .request 0 .empty (forwardedFor "198.51.100.2")].filterMap Arrival.request?).map
          fun r => r.header "X-Forwarded-For").Nodup ∧
      (newRateLimiter ⟨1, 10 * Cache.second, 60 * Cache.second⟩).serve
          [.request 0 .empty (forwardedFor "198.51.100.1"), .request 0 .empty (forwardedFor "198.51.100.2")] =
        [Arrival.request 0 .empty (forwardedFor "198.51.100.1"),
          .request 0 .empty (forwardedFor "198.51.100.2")].filterMap Arrival.passed :=
  ⟨by decide, by decide, rateLimit_spoofed_never_refused _ _ (by decide) (by decide)⟩

end RateLimiter

end VerusGateway.Http

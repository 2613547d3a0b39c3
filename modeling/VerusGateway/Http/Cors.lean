import VerusGateway.Storage.Detector
import VerusGateway.Http.Middleware

/-!
# The CORS middleware

`isOriginAllowed` (`internal/http/middleware`, the CORS middleware's file) decides whether the
middleware echoes a request's `Origin` back in `Access-Control-Allow-Origin`. An empty list admits
nothing; otherwise the loop admits the origin at the first entry that is `*`, the origin itself, or a
wildcard `*.d` with `strings.HasSuffix(origin, d)`.

`isOriginAllowed_iff` says exactly what is admitted. The wildcard test compares the whole origin text
with `d`, with no dot before `d` and no look at the host, so `*.example.com` admits
`https://evilexample.com`, whose host is no subdomain of `example.com`
(`isOriginAllowed_admits_evilexample`).

`CORS(config)` sets the origin headers on an admitted origin and answers every `OPTIONS` request itself
with `204`, after the method, header and max-age headers.

For every positive `MaxAge`, the preflight's `Access-Control-Max-Age` is `string(rune(MaxAge))`, one
character, from which a client never reads `MaxAge` seconds; the default 3600 goes out as U+0E10
(`cors_preflight_maxAge`).
-/

namespace VerusGateway.Http

open Storage

/-- `strings.HasPrefix`. -/
def hasPrefix (s pre : String) : Bool := decide (pre.data <+: s.data)

/-- `strings.HasSuffix`. -/
def hasSuffix (s suf : String) : Bool := decide (suf.data <:+ s.data)

/-- `isOriginAllowed(origin, allowed)`. -/
def isOriginAllowed (origin : String) (allowed : List String) : Bool :=
  if allowed.isEmpty then false
  else allowed.any fun o =>
    o == "*" || o == origin || (hasPrefix o "*." && hasSuffix origin (trimPrefix o "*."))

theorem hasPrefix_star_dot {o : String} : hasPrefix o "*." = true ↔ ∃ d, o = "*." ++ d := by
  simp only [hasPrefix, decide_eq_true_eq]
  constructor
  · rintro ⟨t, ht⟩
    exact ⟨⟨t⟩, String.ext ht.symm⟩
  · rintro ⟨d, rfl⟩
    exact ⟨d.data, rfl⟩

theorem trimPrefix_star_dot (d : String) : trimPrefix ("*." ++ d) "*." = d := by
  rw [trimPrefix, if_pos ⟨d.data, rfl⟩]
  exact String.ext (List.drop_left _ _)

/-- The origins a list admits: any under `*`, the listed ones, and under `*.d` those ending with `d`. -/
theorem isOriginAllowed_iff (origin : String) (allowed : List String) :
    isOriginAllowed origin allowed = true ↔
      "*" ∈ allowed ∨ origin ∈ allowed ∨ ∃ d, "*." ++ d ∈ allowed ∧ d.data <:+ origin.data := by
  rw [isOriginAllowed]
  split_ifs with hnil
  · simp [List.isEmpty_iff.mp hnil]
  simp only [List.any_eq_true, Bool.or_eq_true, beq_iff_eq, Bool.and_eq_true]
  constructor
  · rintro ⟨o, ho, (rfl | rfl) | ⟨hp, hs⟩⟩
    · exact .inl ho
    · exact .inr (.inl ho)
    · obtain ⟨d, rfl⟩ := hasPrefix_star_dot.mp hp
      rw [trimPrefix_star_dot, hasSuffix, decide_eq_true_eq] at hs
      exact .inr (.inr ⟨d, ho, hs⟩)
  · rintro (h | h | ⟨d, hd, hs⟩)
    · exact ⟨_, h, .inl (.inl rfl)⟩
    · exact ⟨_, h, .inl (.inr rfl)⟩
    · refine ⟨_, hd, .inr ⟨hasPrefix_star_dot.mpr ⟨d, rfl⟩, ?_⟩⟩
      rwa [trimPrefix_star_dot, hasSuffix, decide_eq_true_eq]

/-- The text after the first `://` of a serialised origin `scheme://host[:port]`, if it has one. -/
def dropScheme : List Char → Option (List Char)
  | ':' :: '/' :: '/' :: rest => some rest
  | _ :: rest => dropScheme rest
  | [] => none

/-- The host part of an origin: after `scheme://`, up to a port or a path. -/
def originHost (origin : String) : String :=
  String.mk (((dropScheme origin.data).getD origin.data).takeWhile fun c => c != ':' && c != '/')

/-- With `*.example.com` allowed, `https://evilexample.com` is admitted, though the list has no `*`,
does not list it, and its host `evilexample.com` does not end with `.example.com`. -/
theorem isOriginAllowed_admits_evilexample :
    ¬ ∀ (o : String) (allowed : List String), isOriginAllowed o allowed = true →
      "*" ∈ allowed ∨ o ∈ allowed ∨ ∃ d, "*." ++ d ∈ allowed ∧ ("." ++ d).data <:+ (originHost o).data := by
  intro h
  have hadmit : isOriginAllowed "https://evilexample.com" ["*.example.com"] = true :=
    (isOriginAllowed_iff _ _).mpr (.inr (.inr ⟨"example.com", List.mem_singleton_self _, by decide⟩))
  rcases h _ _ hadmit with h | h | ⟨d, hd, hs⟩
  · exact absurd h (by decide)
  · exact absurd h (by decide)
  · have hkey : "*." ++ d = "*." ++ "example.com" :=
      (List.mem_singleton.mp hd).trans (by decide)
    obtain rfl : d = "example.com" := String.ext (List.append_cancel_left (congrArg String.data hkey))
    exact absurd hs (by decide)

/-! ## The middleware -/

namespace Middleware

/-- `middleware.CORSConfig`. -/
structure CORSConfig where
  allowedOrigins : List String
  allowedMethods : List String
  allowedHeaders : List String
  exposedHeaders : List String
  allowCredentials : Bool
  maxAge : Int

/-- `DefaultCORSConfig`. -/
def defaultCORSConfig : CORSConfig :=
  ⟨[], ["GET", "HEAD", "OPTIONS"], ["Accept", "Content-Type", "X-Request-ID"],
    ["X-Request-ID", "X-Cache-Status"], false, 3600⟩

/-- `strings.Join`. -/
def join (elems : List String) (sep : String) : String := sep.intercalate elems

/-- `rune(n)` for a Go `int`: its low 32 bits, signed. -/
def toInt32 (x : Int) : Int := (x + 2147483648) % 4294967296 - 2147483648

/-- `string(r)` for a rune `r`: the character `r`, or U+FFFD when `r` is no Unicode scalar value. -/
def runeString (r : Int) : String :=
  if 0 ≤ r ∧ (r < 0xd800 ∨ 0xdfff < r ∧ r < 0x110000) then String.singleton (Char.ofNat r.toNat)
  else String.singleton '\uFFFD'

/-- `CORS(config)`. -/
def cors (config : CORSConfig) (w : Writer) (r : Request) : Outcome :=
  let origin := r.header "Origin"
  let w := if origin ≠ "" ∧ isOriginAllowed origin config.allowedOrigins = true then
      let w := w.setHeader "Access-Control-Allow-Origin" origin
      let w := if config.allowCredentials then w.setHeader "Access-Control-Allow-Credentials" "true" else w
      if config.exposedHeaders ≠ [] then
        w.setHeader "Access-Control-Expose-Headers" (join config.exposedHeaders ", ") else w
    else w
  if r.method = "OPTIONS" then
    let w := if config.allowedMethods ≠ [] then
      w.setHeader "Access-Control-Allow-Methods" (join config.allowedMethods ", ") else w
    let w := if config.allowedHeaders ≠ [] then
      w.setHeader "Access-Control-Allow-Headers" (join config.allowedHeaders ", ") else w
    let w := if config.maxAge > 0 then
      w.setHeader "Access-Control-Max-Age" (runeString (toInt32 config.maxAge)) else w
    .wrote (w.writeHeader 204)
  else .next w r

/-- The writer a middleware answers with or hands on. -/
def Outcome.writer : Outcome → Writer
  | .next w _ => w
  | .wrote w => w

/-- The number of seconds a client reads from a `delta-seconds` value (`1*DIGIT`), if it is one. -/
def deltaSeconds (s : String) : Option Nat :=
  if s.data ≠ [] ∧ s.data.all Char.isDigit then
    some (s.data.foldl (fun n c => 10 * n + (c.toNat - 48)) 0) else none

theorem isDigit_iff (c : Char) : c.isDigit = true ↔ 48 ≤ c.toNat ∧ c.toNat ≤ 57 := by
  simp only [Char.isDigit, Bool.and_eq_true, decide_eq_true_eq]
  exact Iff.rfl

theorem deltaSeconds_singleton (c : Char) :
    deltaSeconds (String.singleton c) = if c.isDigit then some (c.toNat - 48) else none := by
  simp only [deltaSeconds, String.singleton, String.data_push, List.nil_append, ne_eq, List.cons_ne_self,
    not_false_eq_true, List.all_cons, List.all_nil, Bool.and_true, true_and, List.foldl_cons, Nat.mul_zero,
    zero_add, List.foldl_nil]

theorem toNat_ofNat_of_lt {m : Nat} (h : m < 0xd800) : (Char.ofNat m).toNat = m := by
  rw [Char.ofNat, dif_pos (Or.inl h)]
  rfl

theorem runeString_singleton (r : Int) : ∃ c, runeString r = String.singleton c := by
  unfold runeString; split_ifs <;> exact ⟨_, rfl⟩

/-- `string(rune(n))` of a positive `n` is one character, from which a client never reads `n`. -/
theorem deltaSeconds_runeString_ne {n : Int} (hn : 0 < n) :
    deltaSeconds (runeString (toInt32 n)) ≠ some n.toNat := by
  by_cases hsmall : n ≤ 9
  · have h32 : toInt32 n = n := by unfold toInt32; omega
    have hc : (Char.ofNat n.toNat).toNat = n.toNat := toNat_ofNat_of_lt (by omega)
    rw [h32, runeString, if_pos ⟨hn.le, .inl (by omega)⟩, deltaSeconds_singleton,
      if_neg (by rw [isDigit_iff, hc]; omega)]
    exact Option.noConfusion
  · obtain ⟨c, hc⟩ := runeString_singleton (toInt32 n)
    rw [hc, deltaSeconds_singleton]
    split_ifs with hd
    · rw [isDigit_iff] at hd
      simp only [ne_eq, Option.some.injEq]
      omega
    · exact Option.noConfusion

/-- For every configuration with a positive `MaxAge`, `CORS` answers a preflight itself, with an
`Access-Control-Max-Age` of one character from which a client never reads `MaxAge` seconds. -/
theorem cors_preflight_maxAge (config : CORSConfig) (w : Writer) (r : Request)
    (hm : 0 < config.maxAge) (hopt : r.method = "OPTIONS") :
    ∃ w', cors config w r = .wrote w' ∧ ∃ v, w'.header "Access-Control-Max-Age" = some v ∧
      v.length = 1 ∧ deltaSeconds v ≠ some config.maxAge.toNat := by
  obtain ⟨c, hc⟩ := runeString_singleton (toInt32 config.maxAge)
  refine ⟨_, by simp only [cors, hopt, if_true]; rfl, _, ?_, ?_, deltaSeconds_runeString_ne hm⟩
  · simp only [gt_iff_lt, hm, ↓reduceIte, Writer.writeHeader_header, Writer.setHeader_header]
  · rw [hc]; rfl

/-- A preflight without an `Origin`. -/
def preflight : Request := ⟨"OPTIONS", fun _ => "", "203.0.113.7:5555", false, none, none⟩

/-- `DefaultCORSConfig`'s `MaxAge` of 3600 goes out as the character U+0E10. -/
theorem cors_preflight_maxAge_default :
    0 < defaultCORSConfig.maxAge ∧ preflight.method = "OPTIONS" ∧
      runeString (toInt32 defaultCORSConfig.maxAge) = "\u0E10" ∧
      ∃ w', cors defaultCORSConfig Writer.empty preflight = .wrote w' ∧
        ∃ v, w'.header "Access-Control-Max-Age" = some v ∧ v.length = 1 ∧
          deltaSeconds v ≠ some defaultCORSConfig.maxAge.toNat :=
  ⟨by decide, rfl, by decide, cors_preflight_maxAge _ _ _ (by decide) rfl⟩

end Middleware

end VerusGateway.Http

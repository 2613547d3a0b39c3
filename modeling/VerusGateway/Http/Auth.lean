import VerusGateway.Http.Middleware
import VerusGateway.Http.Cors

/-!
# API-key authentication

`APIKeyAuth` (`internal/http/middleware/auth.go`). `NewAPIKeyAuth` keeps the non-empty keys and
reads `X-API-Key` unless told another header. `Require` and `Optional` let every request through when
no key is configured. Otherwise they read the key from the header, else from an
`Authorization: Bearer` token, and check it with `validateKey`, which compares the key's bytes with
each configured key's by `subtle.ConstantTimeCompare`. `Require` answers 401 to a request without a
valid key, `Optional` only to one with a key that is not valid.

* `[]byte(s)` is the UTF-8 encoding of `s` (`bytesOf`); two strings with the same bytes are the same
  string (`bytesOf_inj`): decoding undoes the encoding of every character (`decNat_encNat`), so the
  bytes of the first character determine it and where the next one starts.
* `constantTimeCompare_eq`: `ConstantTimeCompare` returns 1 on equal slices and 0 otherwise; the OR of
  the byte XORs is zero exactly when every pair of bytes agrees (`foldl_or_xor_eq_zero`).
* So a key is valid exactly when it is one of the configured keys (`validateKey_iff`), and
  `require_eq` and `optional_eq` say which requests each middleware hands on.
-/

namespace VerusGateway.Http.Middleware

/-! ## `[]byte(s)` -/

/-- The bytes `utf8EncodeChar` gives for the scalar value `v`, as numbers: one byte up to `0x7f`, then
a lead byte that tells the count and continuation bytes `0x80` to `0xbf`. -/
def encNat (v : Nat) : List Nat :=
  if v ≤ 0x7f then [v]
  else if v ≤ 0x7ff then [v / 64 + 0xc0, v % 64 + 0x80]
  else if v ≤ 0xffff then [v / 4096 + 0xe0, v / 64 % 64 + 0x80, v % 64 + 0x80]
  else [v / 262144 + 0xf0, v / 4096 % 64 + 0x80, v / 64 % 64 + 0x80, v % 64 + 0x80]

theorem and_31_or_192_of_lt : ∀ x < 32, x % 256 &&& 31 ||| 192 = x + 192 := by decide
theorem and_15_or_224_of_lt : ∀ x < 16, x % 256 &&& 15 ||| 224 = x + 224 := by decide
theorem and_7_or_240_of_lt : ∀ x < 8, x % 256 &&& 7 ||| 240 = x + 240 := by decide
theorem or_128_of_lt : ∀ x < 64, x ||| 128 = x + 128 := by decide

theorem byte_cont (x : Nat) : x % 256 &&& 63 ||| 128 = x % 64 + 128 := by
  rw [show (63 : Nat) = 2 ^ 6 - 1 from rfl, Nat.and_pow_two_sub_one_eq_mod,
    Nat.mod_mod_of_dvd _ (by decide)]
  exact or_128_of_lt _ (Nat.mod_lt _ (by decide))

theorem toNat_toUInt8 (v : UInt32) : v.toUInt8.toNat = v.toNat % 256 := by
  simp [UInt32.toUInt8, Nat.toUInt8, UInt8.toNat, UInt8.ofNat]

theorem toNat_shiftRight (v k : UInt32) : (v >>> k).toNat = v.toNat / 2 ^ (k.toNat % 32) := by
  show (v.toBitVec >>> (UInt32.mod k 32).toBitVec).toNat = _
  simp [Nat.shiftRight_eq_div_pow]
  rfl

theorem toNat_or_and (x m h : UInt8) : (x &&& m ||| h).toNat = (x.toNat &&& m.toNat ||| h.toNat) := by
  show (x.toBitVec &&& m.toBitVec ||| h.toBitVec).toNat = _
  simp; rfl

theorem val_toNat_lt (c : Char) : c.val.toNat < 0x110000 := by
  rcases c.valid with h | h <;> [skip; exact h.2]; omega

theorem map_toNat_utf8EncodeChar (c : Char) :
    (String.utf8EncodeChar c).map UInt8.toNat = encNat c.val.toNat := by
  have hc := val_toNat_lt c
  have h6 : (c.val >>> 6).toUInt8.toNat = c.val.toNat / 64 % 256 := by
    rw [toNat_toUInt8, toNat_shiftRight]; rfl
  have h12 : (c.val >>> 12).toUInt8.toNat = c.val.toNat / 4096 % 256 := by
    rw [toNat_toUInt8, toNat_shiftRight]; rfl
  have h18 : (c.val >>> 18).toUInt8.toNat = c.val.toNat / 262144 % 256 := by
    rw [toNat_toUInt8, toNat_shiftRight]; rfl
  have h127 : c.val ≤ 127 ↔ c.val.toNat ≤ 127 := Iff.rfl
  have h2047 : c.val ≤ 2047 ↔ c.val.toNat ≤ 2047 := Iff.rfl
  have h65535 : c.val ≤ 65535 ↔ c.val.toNat ≤ 65535 := Iff.rfl
  simp only [String.utf8EncodeChar, encNat, apply_ite (List.map UInt8.toNat), List.map_cons, List.map_nil,
    toNat_or_and, toNat_toUInt8, h6, h12, h18, h127, h2047, h65535, byte_cont,
    show UInt8.toNat 63 = 63 from rfl, show UInt8.toNat 128 = 128 from rfl,
    show UInt8.toNat 31 = 31 from rfl, show UInt8.toNat 192 = 192 from rfl,
    show UInt8.toNat 15 = 15 from rfl, show UInt8.toNat 224 = 224 from rfl,
    show UInt8.toNat 7 = 7 from rfl, show UInt8.toNat 240 = 240 from rfl]
  split_ifs
  · rw [Nat.mod_eq_of_lt (by omega)]
  · rw [and_31_or_192_of_lt _ (by omega)]
  · rw [and_15_or_224_of_lt _ (by omega)]
  · rw [and_7_or_240_of_lt _ (by omega)]

/-- Reads one scalar value back from the front of its UTF-8 bytes, by the count its lead byte tells. -/
def decNat : List Nat → Option (Nat × List Nat)
  | [] => none
  | b0 :: r =>
    if b0 < 0x80 then some (b0, r)
    else if b0 < 0xe0 then
      match r with
      | b1 :: r => some ((b0 - 0xc0) * 64 + (b1 - 0x80), r)
      | [] => none
    else if b0 < 0xf0 then
      match r with
      | b1 :: b2 :: r => some (((b0 - 0xe0) * 64 + (b1 - 0x80)) * 64 + (b2 - 0x80), r)
      | _ => none
    else
      match r with
      | b1 :: b2 :: b3 :: r => some ((((b0 - 0xf0) * 64 + (b1 - 0x80)) * 64 + (b2 - 0x80)) * 64 + (b3 - 0x80), r)
      | _ => none

theorem div64_mul_add_mod (v : Nat) : v / 64 * 64 + v % 64 = v := Nat.div_add_mod' v 64

theorem div4096 (v : Nat) : v / 4096 = v / 64 / 64 := by rw [Nat.div_div_eq_div_mul]

theorem div262144 (v : Nat) : v / 262144 = v / 64 / 64 / 64 := by
  rw [Nat.div_div_eq_div_mul, Nat.div_div_eq_div_mul]

theorem decNat_encNat {v : Nat} (hv : v < 0x110000) (r : List Nat) : decNat (encNat v ++ r) = some (v, r) := by
  unfold encNat
  split_ifs with h1 h2 h3 <;> simp only [List.cons_append, List.singleton_append, decNat]
  · rw [if_pos (show v < 0x80 by omega), List.nil_append]
  · rw [if_neg (show ¬ v / 64 + 0xc0 < 0x80 by omega), if_pos (show v / 64 + 0xc0 < 0xe0 by omega)]
    simp only [Nat.add_sub_cancel, div64_mul_add_mod, List.nil_append]
  · rw [if_neg (show ¬ v / 4096 + 0xe0 < 0x80 by omega), if_neg (show ¬ v / 4096 + 0xe0 < 0xe0 by omega),
      if_pos (show v / 4096 + 0xe0 < 0xf0 by omega)]
    simp only [Nat.add_sub_cancel, div4096, div64_mul_add_mod, List.nil_append]
  · rw [if_neg (show ¬ v / 262144 + 0xf0 < 0x80 by omega), if_neg (show ¬ v / 262144 + 0xf0 < 0xe0 by omega),
      if_neg (show ¬ v / 262144 + 0xf0 < 0xf0 by omega)]
    simp only [Nat.add_sub_cancel, div262144, div4096, div64_mul_add_mod, List.nil_append]

/-- The first bytes of an encoding tell the character and where the next one starts. -/
theorem encNat_append_inj {v w : Nat} (hv : v < 0x110000) (hw : w < 0x110000) {r r' : List Nat}
    (h : encNat v ++ r = encNat w ++ r') : v = w ∧ r = r' := by
  have hd := congrArg decNat h
  rw [decNat_encNat hv, decNat_encNat hw, Option.some.injEq, Prod.mk.injEq] at hd
  exact hd

theorem encNat_ne_nil (v : Nat) : encNat v ≠ [] := by
  unfold encNat; split_ifs <;> exact List.cons_ne_nil _ _

theorem flatMap_encNat_inj : ∀ {cs ds : List Char},
    cs.flatMap (fun c => encNat c.val.toNat) = ds.flatMap (fun c => encNat c.val.toNat) → cs = ds
  | [], [], _ => rfl
  | [], d :: _, h => absurd h.symm (by simp [encNat_ne_nil])
  | c :: _, [], h => absurd h (by simp [encNat_ne_nil])
  | c :: cs, d :: ds, h => by
    simp only [List.flatMap_cons] at h
    obtain ⟨hcd, hrest⟩ := encNat_append_inj (val_toNat_lt c) (val_toNat_lt d) h
    rw [Char.ext (UInt32.toNat.inj hcd), flatMap_encNat_inj hrest]

theorem bytesOf_inj {s t : String} (h : bytesOf s = bytesOf t) : s = t := by
  have hb : (s.data.flatMap String.utf8EncodeChar).map UInt8.toNat =
      (t.data.flatMap String.utf8EncodeChar).map UInt8.toNat := congrArg (List.map UInt8.toNat) h
  simp only [List.map_flatMap, map_toNat_utf8EncodeChar] at hb
  exact String.ext (flatMap_encNat_inj hb)

/-! ## `crypto/subtle` -/

/-- `subtle.ConstantTimeByteEq`: `(uint32(x^y) - 1) >> 31`. -/
def constantTimeByteEq (x y : UInt8) : Int := (((x ^^^ y).toUInt32 - 1) >>> 31).toNat

/-- `subtle.ConstantTimeCompare`: 0 for slices of different lengths, else the OR of the bytewise XORs
tested against zero. -/
def constantTimeCompare (x y : Bytes) : Int :=
  if x.length ≠ y.length then 0
  else constantTimeByteEq ((x.zip y).foldl (fun v p => v ||| p.1 ^^^ p.2) 0) 0

theorem xor_eq_zero_iff {x y : UInt8} : x ^^^ y = 0 ↔ x = y := by
  constructor
  · intro h
    have h' : x.toBitVec ^^^ y.toBitVec = 0#8 := congrArg UInt8.toBitVec h
    apply UInt8.eq_of_toBitVec_eq
    calc x.toBitVec = x.toBitVec ^^^ y.toBitVec ^^^ y.toBitVec := by
          rw [BitVec.xor_assoc, BitVec.xor_self, BitVec.xor_zero]
      _ = y.toBitVec := by rw [h', BitVec.zero_xor]
  · rintro rfl
    exact UInt8.eq_of_toBitVec_eq BitVec.xor_self

theorem nat_or_eq_zero {a b : Nat} : a ||| b = 0 ↔ a = 0 ∧ b = 0 := by
  refine ⟨fun h => ?_, fun ⟨ha, hb⟩ => by rw [ha, hb]; rfl⟩
  have hbit : ∀ i, a.testBit i = false ∧ b.testBit i = false := fun i => by
    simpa [Nat.testBit_or] using congrArg (Nat.testBit · i) h
  exact ⟨Nat.eq_of_testBit_eq fun i => by simp [(hbit i).1], Nat.eq_of_testBit_eq fun i => by simp [(hbit i).2]⟩

theorem or_eq_zero_iff {x y : UInt8} : x ||| y = 0 ↔ x = 0 ∧ y = 0 := by
  have hz : ∀ z : UInt8, z = 0 ↔ z.toNat = 0 := fun z => ⟨fun h => h ▸ rfl, fun h => UInt8.toNat.inj h⟩
  rw [hz, hz x, hz y, show (x ||| y).toNat = x.toNat ||| y.toNat from BitVec.toNat_or _ _, nat_or_eq_zero]

theorem constantTimeByteEq_eq (x y : UInt8) : constantTimeByteEq x y = if x = y then 1 else 0 := by
  have hz : (x ^^^ y).toNat < 256 := (x ^^^ y).toBitVec.isLt
  have hsub : ((x ^^^ y).toUInt32 - 1).toNat = (4294967295 + (x ^^^ y).toNat) % 4294967296 := by
    have hu : (x ^^^ y).toUInt32.toBitVec.toNat = (x ^^^ y).toNat := rfl
    show ((x ^^^ y).toUInt32.toBitVec - 1#32).toNat = _
    rw [BitVec.toNat_sub, hu, BitVec.toNat_ofNat]
  have h0 : x ^^^ y = 0 ↔ (x ^^^ y).toNat = 0 := ⟨fun h => h ▸ rfl, fun h => UInt8.toNat.inj h⟩
  unfold constantTimeByteEq
  rw [toNat_shiftRight, hsub]
  by_cases h : x = y
  · rw [if_pos h, h0.mp (xor_eq_zero_iff.mpr h)]; rfl
  · have hne : (x ^^^ y).toNat ≠ 0 := fun h' => h (xor_eq_zero_iff.mp (h0.mpr h'))
    rw [if_neg h]
    show (((4294967295 + (x ^^^ y).toNat) % 4294967296 / 2 ^ 31 : Nat) : Int) = 0
    omega

/-- The accumulator of the loop is zero exactly when it started at zero and every pair agreed. -/
theorem foldl_or_xor_eq_zero (l : List (UInt8 × UInt8)) : ∀ v : UInt8,
    l.foldl (fun v p => v ||| p.1 ^^^ p.2) v = 0 ↔ v = 0 ∧ ∀ p ∈ l, p.1 = p.2 := by
  induction l with
  | nil => simp
  | cons p l ih =>
    intro v
    rw [List.foldl_cons, ih, or_eq_zero_iff, xor_eq_zero_iff, List.forall_mem_cons, and_assoc]

theorem forall_mem_zip_iff : ∀ {x y : Bytes}, x.length = y.length →
    ((∀ p ∈ x.zip y, p.1 = p.2) ↔ x = y)
  | [], [], _ => by simp
  | a :: x, b :: y, h => by
    rw [List.zip_cons_cons, List.forall_mem_cons, forall_mem_zip_iff (Nat.succ.inj h), List.cons.injEq]
  | [], _ :: _, h => absurd h (by simp)
  | _ :: _, [], h => absurd h (by simp)

/-- `ConstantTimeCompare` returns 1 on equal byte slices and 0 on any others. -/
theorem constantTimeCompare_eq (x y : Bytes) : constantTimeCompare x y = if x = y then 1 else 0 := by
  unfold constantTimeCompare
  by_cases hlen : x.length = y.length
  · rw [if_neg (not_not.mpr hlen), constantTimeByteEq_eq]
    simp only [foldl_or_xor_eq_zero, forall_mem_zip_iff hlen, true_and]
  · rw [if_pos hlen, if_neg fun h => hlen (congrArg List.length h)]

/-! ## The middleware -/

/-- `APIKeyAuth`: the keys of `apiKeys`, in the order a `range` visits them, and the header to read.
`NewAPIKeyAuth` is its only constructor, and it leaves no empty key. -/
structure APIKeyAuth where
  apiKeys : List String
  header : String
  empty_not_mem : "" ∉ apiKeys

/-- `NewAPIKeyAuth`. -/
def newAPIKeyAuth (apiKeys : List String) (headerName : String) : APIKeyAuth :=
  ⟨apiKeys.filter (· != ""), if headerName = "" then "X-API-Key" else headerName, by simp⟩

namespace APIKeyAuth

/-- `(*APIKeyAuth).validateKey`. -/
def validateKey (a : APIKeyAuth) (provided : String) : Bool :=
  a.apiKeys.any fun validKey => constantTimeCompare (bytesOf provided) (bytesOf validKey) == 1

/-- The key that `Require` and `Optional` read: the configured header, else the token of an
`Authorization` header that starts with `Bearer `. -/
def apiKey (a : APIKeyAuth) (r : Request) : String :=
  if r.header a.header = "" then
    if hasPrefix (r.header "Authorization") "Bearer " then
      Storage.trimPrefix (r.header "Authorization") "Bearer " else ""
  else r.header a.header

/-- The body of `Require`'s 401. -/
def keyRequired : String :=
  "\x7b\"error\":\"UNAUTHORIZED\",\"message\":\"Valid API key required\"\x7d"

/-- The body of `Optional`'s 401. -/
def keyInvalid : String := "\x7b\"error\":\"UNAUTHORIZED\",\"message\":\"Invalid API key\"\x7d"

/-- `Require()`. -/
def require (a : APIKeyAuth) (w : Writer) (r : Request) : Outcome :=
  if a.apiKeys.isEmpty then .next w r
  else if a.apiKey r = "" ∨ a.validateKey (a.apiKey r) = false then
    .wrote ((((w.setHeader "Content-Type" "application/json").setHeader "WWW-Authenticate"
      "Bearer realm=\"Verus Gateway\"").writeHeader 401).write keyRequired)
  else .next w r

/-- `Optional()`. -/
def optional (a : APIKeyAuth) (w : Writer) (r : Request) : Outcome :=
  if a.apiKeys.isEmpty then .next w r
  else if a.apiKey r ≠ "" ∧ a.validateKey (a.apiKey r) = false then
    .wrote (((w.setHeader "Content-Type" "application/json").writeHeader 401).write keyInvalid)
  else .next w r

theorem validateKey_iff (a : APIKeyAuth) (provided : String) :
    a.validateKey provided = true ↔ provided ∈ a.apiKeys := by
  simp only [validateKey, List.any_eq_true, constantTimeCompare_eq, beq_iff_eq]
  constructor
  · rintro ⟨k, hk, heq⟩
    split_ifs at heq with h
    · rwa [bytesOf_inj h]
    · exact absurd heq (by decide)
  · intro h
    exact ⟨provided, h, if_pos rfl⟩

/-- With keys configured, `Require` hands on exactly the requests whose key is one of them, and
answers every other one with its 401; with none configured, it hands on every request. -/
theorem require_eq (a : APIKeyAuth) (w : Writer) (r : Request) :
    a.require w r = if a.apiKeys = [] ∨ a.apiKey r ∈ a.apiKeys then .next w r
      else .wrote ((((w.setHeader "Content-Type" "application/json").setHeader "WWW-Authenticate"
        "Bearer realm=\"Verus Gateway\"").writeHeader 401).write keyRequired) := by
  have hne : a.apiKey r ∈ a.apiKeys → a.apiKey r ≠ "" := fun h he => a.empty_not_mem (he ▸ h)
  unfold require
  by_cases hnil : a.apiKeys = []
  · simp [hnil]
  · by_cases hmem : a.apiKey r ∈ a.apiKeys
    · simp [hnil, hmem, hne hmem, validateKey_iff]
    · have hv : a.validateKey (a.apiKey r) = false :=
        Bool.eq_false_iff.mpr fun h => hmem ((validateKey_iff _ _).mp h)
      simp [hnil, hmem, hv]

/-- With keys configured, `Optional` hands on the requests without a key and those whose key is one
of them, and answers every other one with its 401; with none configured, it hands on every request. -/
theorem optional_eq (a : APIKeyAuth) (w : Writer) (r : Request) :
    a.optional w r = if a.apiKeys = [] ∨ a.apiKey r = "" ∨ a.apiKey r ∈ a.apiKeys then .next w r
      else .wrote (((w.setHeader "Content-Type" "application/json").writeHeader 401).write keyInvalid) := by
  unfold optional
  by_cases hnil : a.apiKeys = []
  · simp [hnil]
  · by_cases hmem : a.apiKey r ∈ a.apiKeys
    · simp [hnil, hmem, validateKey_iff]
    · have hv : a.validateKey (a.apiKey r) = false :=
        Bool.eq_false_iff.mpr fun h => hmem ((validateKey_iff _ _).mp h)
      by_cases he : a.apiKey r = "" <;> simp [hnil, hmem, hv, he]

end APIKeyAuth

end VerusGateway.Http.Middleware

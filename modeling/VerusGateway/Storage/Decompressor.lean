import VerusGateway.Domain.Errors
import Mathlib.Data.List.Basic
import Mathlib.Data.Int.Order.Basic

/-!
# The decompressor

`Decompressor` (`internal/storage`, the file with `limitedWriter`): gzip detection by the two magic bytes,
and decompression by `io.Copy` from a `gzip.Reader` into a `limitedWriter` that guards the output
buffer with a budget of `maxSize` bytes.

The gzip decoder is the standard library's, so the model takes what it does on an input as a
`GzipReader`: the error of `gzip.NewReader`, or the chunks that the reader's `Read` calls hand to
`io.Copy` followed by the status of the last read (`none` is `io.EOF`). A valid encoding of `b` is one
whose chunks concatenate to `b` and end at `io.EOF`; the chunking is the reader's and arbitrary.

`copy_eq_copyResult` computes the whole `io.Copy` loop in closed form: it depends on the chunks only
through their concatenation, so every result below holds for every chunking. `decompress_valid`
follows: a valid stream decompresses to its bytes exactly when there are fewer of them than
`maxSize`, and fails with `DECOMPRESSION_FAILED` otherwise, also when there are exactly `maxSize`
(the writer reports the limit as soon as its budget reaches zero, as its test expects). With the
input that is not gzip and comes back as it is, this is the round trip (`decompress_round_trip`);
a stream of exactly `maxSize` bytes is refused (`decompress_refuses_at_limit`). `copy_forwarded`
bounds what reaches the buffer by the budget, and `decompress_rejects_oversized` is the bomb defence:
past the limit the call fails, whatever the chunking.
-/

namespace VerusGateway.Storage

/-- What `gzip.NewReader` and then `Read` until the end produce on one input. -/
structure GzipStream where
  chunks : List Bytes
  final : Option GoError

/-- The standard library's gzip reader, as a function of the compressed input. -/
abbrev GzipReader := Bytes → Except GoError GzipStream

/-- `storage.Decompressor`. -/
structure Decompressor where
  maxSize : Int

/-- `storage.DecompressorConfig`. -/
structure DecompressorConfig where
  maxSize : Int

/-- `NewDecompressor`: a zero `MaxSize` becomes 100 MiB. -/
def newDecompressor (cfg : DecompressorConfig) : Decompressor :=
  ⟨if cfg.maxSize = 0 then 100 * 1024 * 1024 else cfg.maxSize⟩

/-- `(*Decompressor).isGzipped`: the magic bytes `0x1F 0x8B`. -/
def isGzipped (content : Bytes) : Bool :=
  match content with
  | b0 :: b1 :: _ => b0 == 0x1F && b1 == 0x8B
  | _ => false

def errSizeLimitExceeded : GoError := .sentinel "storage.errSizeLimitExceeded" "size limit exceeded"
def errShortWrite : GoError := .sentinel "io.ErrShortWrite" "short write"

/-- `limitedWriter` over the `bytes.Buffer` `out`: the buffer's contents `w` and the budget `N`. -/
structure LimitedWriter where
  w : Bytes
  n : Int

/-- `(*limitedWriter).Write(p)`, returning the writer, the count and the error. Writing to a
`bytes.Buffer` never fails. -/
def LimitedWriter.write (l : LimitedWriter) (p : Bytes) : LimitedWriter × Nat × Option GoError :=
  if l.n ≤ 0 then (l, 0, some errSizeLimitExceeded)
  else
    let p := if (p.length : Int) > l.n then p.take l.n.toNat else p
    let l' : LimitedWriter := ⟨l.w ++ p, l.n - p.length⟩
    if l'.n ≤ 0 then (l', p.length, some errSizeLimitExceeded) else (l', p.length, none)

/-- `io.Copy(lim, gr)`: each non-empty chunk is written; a write error or a short write stops the loop,
and otherwise the last read's status is returned (`io.EOF` as `nil`). -/
def copy (l : LimitedWriter) : List Bytes → Option GoError → LimitedWriter × Option GoError
  | [], final => (l, final)
  | chunk :: rest, final =>
    if chunk.length = 0 then copy l rest final
    else
      match l.write chunk with
      | (l', _, some e) => (l', some e)
      | (l', nw, none) => if nw ≠ chunk.length then (l', some errShortWrite) else copy l' rest final

namespace Decompressor

/-- `(*Decompressor).decompressGzip`. -/
def decompressGzip (d : Decompressor) (gz : GzipReader) (content : Bytes) : Except GoError Bytes :=
  match gz content with
  | .error e => .error e
  | .ok s =>
    match copy ⟨[], d.maxSize⟩ s.chunks s.final with
    | (_, some e) =>
      if e.isSentinel "storage.errSizeLimitExceeded" then
        .error (newDecompressionError
          ("decompressed size exceeds limit of " ++ toString d.maxSize ++ " bytes"))
      else .error e
    | (l, none) => .ok l.w

/-- `(*Decompressor).Decompress`: input without the magic bytes comes back unchanged; every failure
of `decompressGzip` becomes a `DECOMPRESSION_FAILED` error. -/
def decompress (d : Decompressor) (gz : GzipReader) (content : Bytes) : Except GoError Bytes :=
  if !isGzipped content then .ok content
  else
    match d.decompressGzip gz content with
    | .ok b => .ok b
    | .error e => .error (newDecompressionError ("gzip decompression failed: " ++ e.text))

/-- `(*Decompressor).MustDecompress`: the input itself on any failure. -/
def mustDecompress (d : Decompressor) (gz : GzipReader) (content : Bytes) : Bytes :=
  match d.decompress gz content with
  | .ok b => b
  | .error _ => content

end Decompressor

/-! ### The copy loop in closed form -/

/-- The outcome of `copy` in one step, by the concatenated chunks `J`: all of `J` when it is shorter
than the budget; nothing when `J` is empty; otherwise the first `N` bytes and the limit error. -/
def copyResult (l : LimitedWriter) (cs : List Bytes) (final : Option GoError) :
    LimitedWriter × Option GoError :=
  if (cs.flatten.length : Int) < l.n then (⟨l.w ++ cs.flatten, l.n - cs.flatten.length⟩, final)
  else if cs.flatten = [] then (l, final)
  else (⟨l.w ++ cs.flatten.take l.n.toNat, min l.n 0⟩, some errSizeLimitExceeded)

namespace LimitedWriter

theorem write_of_nonpos (l : LimitedWriter) (p : Bytes) (h : l.n ≤ 0) :
    l.write p = (l, 0, some errSizeLimitExceeded) := by
  simp [write, h]

theorem write_of_lt (l : LimitedWriter) (p : Bytes) (h0 : 0 < l.n) (h : (p.length : Int) < l.n) :
    l.write p = (⟨l.w ++ p, l.n - p.length⟩, p.length, none) := by
  simp only [write, if_neg (not_le.mpr h0), if_neg (not_lt.mpr h.le)]
  rw [if_neg (by omega)]

theorem write_of_le (l : LimitedWriter) (p : Bytes) (h0 : 0 < l.n) (h : l.n ≤ p.length) :
    l.write p = (⟨l.w ++ p.take l.n.toNat, 0⟩, l.n.toNat, some errSizeLimitExceeded) := by
  have hp : (if (p.length : Int) > l.n then p.take l.n.toNat else p) = p.take l.n.toNat := by
    split_ifs with hgt
    · rfl
    · exact (List.take_of_length_le (by omega)).symm
  have hlen : (p.take l.n.toNat).length = l.n.toNat := by simp; omega
  simp only [write, if_neg (not_le.mpr h0), hp, hlen]
  rw [if_pos (by omega)]
  simp only [Prod.mk.injEq, LimitedWriter.mk.injEq, true_and, and_true]
  omega

end LimitedWriter

theorem copy_eq_copyResult (l : LimitedWriter) (cs : List Bytes) (final : Option GoError) :
    copy l cs final = copyResult l cs final := by
  induction cs generalizing l with
  | nil =>
    by_cases h : 0 < l.n <;> simp [copy, copyResult, h]
  | cons c rest ih =>
    by_cases hc : c = []
    · subst hc; simp [copy, copyResult, ih]
    have hlen : c.length ≠ 0 := by simpa using hc
    have hJ : (c :: rest).flatten ≠ [] := by simp [hc]
    rcases le_or_lt l.n 0 with hn | hn
    · simp only [copy, if_neg hlen, LimitedWriter.write_of_nonpos l c hn, copyResult, hJ, if_false]
      rw [if_neg (by omega)]
      simp [show l.n.toNat = 0 by omega, min_eq_left hn]
    rcases lt_or_le (c.length : Int) l.n with hfit | hfit
    · simp only [copy, if_neg hlen, LimitedWriter.write_of_lt l c hn hfit, ne_eq, not_true_eq_false,
        if_false, ih, copyResult, List.flatten_cons, List.length_append, List.append_assoc]
      by_cases h1 : (rest.flatten.length : Int) < l.n - c.length
      · rw [if_pos h1, if_pos (by push_cast; omega)]
        simp only [Prod.mk.injEq, LimitedWriter.mk.injEq, true_and, and_true]
        push_cast; omega
      · have hr : rest.flatten ≠ [] := fun h => h1 (by simp [h]; omega)
        rw [if_neg h1, if_neg hr, if_neg (by push_cast; omega), if_neg (by simp [hc])]
        have htake : c.take l.n.toNat = c := List.take_of_length_le (by omega)
        simp only [List.take_append_eq_append_take, htake, Prod.mk.injEq, LimitedWriter.mk.injEq,
          List.append_cancel_left_eq, true_and, and_true]
        refine ⟨by congr 1; omega, by omega⟩
    · simp only [copy, if_neg hlen, LimitedWriter.write_of_le l c hn hfit, copyResult, hJ, if_false]
      rw [List.flatten_cons, if_neg (by rw [List.length_append]; push_cast; omega),
        List.take_append_of_le_length (by omega)]
      simp only [Prod.mk.injEq, LimitedWriter.mk.injEq, true_and, and_true]
      omega

theorem copy_forwarded (n : Int) (hn : 0 ≤ n) (cs : List Bytes) (final : Option GoError) :
    (copy ⟨[], n⟩ cs final).1.w <+: cs.flatten ∧ ((copy ⟨[], n⟩ cs final).1.w.length : Int) ≤ n := by
  rw [copy_eq_copyResult]
  unfold copyResult
  split_ifs with h1 h2
  · exact ⟨List.prefix_refl _, h1.le⟩
  · simpa [h2] using hn
  · exact ⟨List.take_prefix _ _, by simp; omega⟩

namespace Decompressor

variable (d : Decompressor) (gz : GzipReader)

theorem decompress_of_not_gzipped (content : Bytes) (h : isGzipped content = false) :
    d.decompress gz content = .ok content := by
  simp [decompress, h]

/-- The error `Decompress` returns when the budget runs out. -/
def limitError : GoError :=
  newDecompressionError ("gzip decompression failed: " ++ (newDecompressionError
    ("decompressed size exceeds limit of " ++ toString d.maxSize ++ " bytes")).text)

/-- A valid stream decompresses to its bytes when there are fewer than `maxSize` of them; otherwise
the budget runs out (an empty stream apart, which only a non-positive budget does not exceed). -/
theorem decompress_valid (content : Bytes) (cs : List Bytes) (hgz : isGzipped content = true)
    (hread : gz content = .ok ⟨cs, none⟩) :
    d.decompress gz content =
      if (cs.flatten.length : Int) < d.maxSize then .ok cs.flatten
      else if cs.flatten = [] then .ok [] else .error d.limitError := by
  simp only [decompress, hgz, Bool.not_true, Bool.false_eq_true, if_false, decompressGzip, hread,
    copy_eq_copyResult, copyResult]
  split_ifs <;> rfl

theorem decompress_error_code (content : Bytes) (e : GoError) (hgz : isGzipped content = true)
    (h : d.decompress gz content = .error e) : e.code = some "DECOMPRESSION_FAILED" := by
  cases hd : d.decompressGzip gz content <;> simp [decompress, hgz, hd] at h
  rw [← h]; rfl

/-! ### `MustDecompress`: the decompressed bytes, or the input -/

theorem mustDecompress_of_not_gzipped (content : Bytes) (h : isGzipped content = false) :
    d.mustDecompress gz content = content := by
  simp [mustDecompress, decompress_of_not_gzipped d gz content h]

theorem mustDecompress_of_valid (content : Bytes) (cs : List Bytes) (hgz : isGzipped content = true)
    (hread : gz content = .ok ⟨cs, none⟩) (hlen : (cs.flatten.length : Int) < d.maxSize) :
    d.mustDecompress gz content = cs.flatten := by
  rw [mustDecompress, decompress_valid d gz content cs hgz hread, if_pos hlen]

theorem decompressGzip_of_final (content : Bytes) (cs : List Bytes) (e : GoError)
    (hread : gz content = .ok ⟨cs, some e⟩) : ∃ e', d.decompressGzip gz content = .error e' := by
  simp only [decompressGzip, hread, copy_eq_copyResult, copyResult]
  split_ifs <;> simp only <;> split <;> exact ⟨_, rfl⟩

/-- Gzip input that the reader does not decode to fewer than `maxSize` bytes comes back as it is. -/
theorem mustDecompress_of_invalid (content : Bytes) (hgz : isGzipped content = true) (hpos : 0 < d.maxSize)
    (hbad : ∀ cs, gz content = .ok ⟨cs, none⟩ → d.maxSize ≤ cs.flatten.length) :
    d.mustDecompress gz content = content := by
  suffices h : ∃ e, d.decompress gz content = .error e by
    obtain ⟨e, he⟩ := h
    simp [mustDecompress, he]
  rcases hr : gz content with e | ⟨cs, _ | e⟩
  · exact ⟨newDecompressionError ("gzip decompression failed: " ++ e.text),
      by simp [decompress, hgz, decompressGzip, hr]⟩
  · have hlen := hbad cs hr
    have hne : cs.flatten ≠ [] := fun h => by simp [h] at hlen; omega
    rw [decompress_valid d gz content cs hgz hr, if_neg (by omega), if_neg hne]
    exact ⟨_, rfl⟩
  · obtain ⟨e', he'⟩ := decompressGzip_of_final d gz content cs e hr
    exact ⟨newDecompressionError ("gzip decompression failed: " ++ e'.text), by simp [decompress, hgz, he']⟩

/-! ### At the limit and past it -/

/-- `gzip -n` of the single byte `A`. -/
def gzipA : Bytes :=
  [0x1f, 0x8b, 0x08, 0x00, 0x00, 0x00, 0x00, 0x00, 0x02, 0x03, 0x73, 0x04, 0x00, 0x8b, 0x9e, 0xd9,
    0xd3, 0x01, 0x00, 0x00, 0x00]

/-- `gzip -n` of the two bytes `AB`. -/
def gzipAB : Bytes :=
  [0x1f, 0x8b, 0x08, 0x00, 0x00, 0x00, 0x00, 0x00, 0x02, 0x03, 0x73, 0x74, 0x02, 0x00, 0x07, 0x4c,
    0x69, 0x30, 0x02, 0x00, 0x00, 0x00]

/-- One byte under a one-byte limit is refused, however the reader chunks it. -/
theorem decompress_at_limit_fails (gz : GzipReader) (cs : List Bytes)
    (hread : gz gzipA = .ok ⟨cs, none⟩) (hcs : cs.flatten = [0x41]) :
    (⟨1⟩ : Decompressor).decompress gz gzipA = .error (⟨1⟩ : Decompressor).limitError := by
  rw [decompress_valid _ _ gzipA cs rfl hread, hcs]
  rfl

/-- The round trip, for every chunking: input without the gzip magic comes back as it is, and a valid
stream of fewer than `maxSize` bytes decompresses to them; one of `maxSize` bytes or more is refused. -/
theorem decompress_round_trip (content : Bytes) (cs : List Bytes) :
    (isGzipped content = false → d.decompress gz content = .ok content) ∧
    (isGzipped content = true → gz content = .ok ⟨cs, none⟩ →
      ((cs.flatten.length : Int) < d.maxSize → d.decompress gz content = .ok cs.flatten) ∧
      (cs.flatten ≠ [] → d.maxSize ≤ cs.flatten.length → d.decompress gz content = .error d.limitError)) := by
  refine ⟨decompress_of_not_gzipped d gz content, fun hgz hread => ⟨fun hlt => ?_, fun hne hle => ?_⟩⟩
  · rw [decompress_valid d gz content cs hgz hread, if_pos hlt]
  · rw [decompress_valid d gz content cs hgz hread, if_neg (not_lt.mpr hle), if_neg hne]

/-- The stream `A` under limits of two and one byte, and the byte `A` alone, which is not gzip. -/
theorem decompress_round_trip_A :
    (⟨2⟩ : Decompressor).decompress (fun _ => .ok ⟨[[0x41]], none⟩) gzipA = .ok [0x41] ∧
      (⟨1⟩ : Decompressor).decompress (fun _ => .ok ⟨[[0x41]], none⟩) gzipA =
        .error (⟨1⟩ : Decompressor).limitError ∧
      (⟨1⟩ : Decompressor).decompress (fun _ => .ok ⟨[], none⟩) [0x41] = .ok [0x41] :=
  ⟨((decompress_round_trip ⟨2⟩ _ gzipA [[0x41]]).2 rfl rfl).1 (by decide),
    ((decompress_round_trip ⟨1⟩ _ gzipA [[0x41]]).2 rfl rfl).2 (by decide) (by decide),
    (decompress_round_trip ⟨1⟩ (fun _ => .ok ⟨[], none⟩) [0x41] []).1 rfl⟩

/-- A one-byte limit and the one-byte stream `A`: the round trip fails at the limit. -/
theorem decompress_refuses_at_limit : ¬ ∀ (maxSize : Int), 1 ≤ maxSize → ∀ (gz : GzipReader) (content : Bytes)
    (cs : List Bytes), isGzipped content = true → gz content = .ok ⟨cs, none⟩ →
      (cs.flatten.length : Int) ≤ maxSize → (⟨maxSize⟩ : Decompressor).decompress gz content = .ok cs.flatten := by
  intro h
  have h₁ := h 1 le_rfl (fun _ => .ok ⟨[[0x41]], none⟩) gzipA [[0x41]] rfl rfl (by decide)
  rw [decompress_at_limit_fails _ [[0x41]] rfl rfl] at h₁
  cases h₁

/-- Past the limit `Decompress` fails with `DECOMPRESSION_FAILED`, for every chunking and whatever the
last read reports, and the buffer receives a prefix of the stream no longer than `maxSize`. -/
theorem decompress_rejects_oversized (maxSize : Int) (hmax : 1 ≤ maxSize) (gz : GzipReader)
    (content : Bytes) (cs : List Bytes) (final : Option GoError) (hgz : isGzipped content = true)
    (hread : gz content = .ok ⟨cs, final⟩) (hbig : maxSize < cs.flatten.length) :
    (∃ e, (⟨maxSize⟩ : Decompressor).decompress gz content = .error e ∧
        e.code = some "DECOMPRESSION_FAILED") ∧
      (copy ⟨[], maxSize⟩ cs final).1.w <+: cs.flatten ∧
      ((copy ⟨[], maxSize⟩ cs final).1.w.length : Int) ≤ maxSize := by
  refine ⟨⟨(⟨maxSize⟩ : Decompressor).limitError, ?_, rfl⟩, copy_forwarded maxSize (by omega) cs final⟩
  have hne : cs.flatten ≠ [] := fun h => by simp [h] at hbig; omega
  simp only [decompress, hgz, decompressGzip, hread, copy_eq_copyResult, copyResult,
    if_neg (not_lt.mpr hbig.le), if_neg hne]
  rfl

theorem decompress_rejects_oversized_AB :
    1 ≤ (1 : Int) ∧ isGzipped gzipAB = true ∧
      (1 : Int) < ([[0x41, 0x42]] : List Bytes).flatten.length ∧
      ((∃ e, (⟨1⟩ : Decompressor).decompress (fun _ => .ok ⟨[[0x41, 0x42]], none⟩) gzipAB = .error e ∧
          e.code = some "DECOMPRESSION_FAILED") ∧
        (copy ⟨[], 1⟩ [[0x41, 0x42]] none).1.w <+: ([[0x41, 0x42]] : List Bytes).flatten ∧
        ((copy ⟨[], 1⟩ [[0x41, 0x42]] none).1.w.length : Int) ≤ 1) :=
  ⟨le_refl _, rfl, by decide,
    decompress_rejects_oversized 1 (le_refl _) _ gzipAB [[0x41, 0x42]] none rfl rfl (by decide)⟩

end Decompressor

end VerusGateway.Storage

import VerusGateway.Cache.Filesystem.Basic
import Mathlib.Algebra.Order.BigOperators.Group.List

/-!
# The file-system cache: counters and the size ceiling

What `size` and `items` say against what the directory holds. Eviction and the sweeper take off the
counters exactly what they remove (`evictOldest_spec`, `cleanup_spec`); `Set` over a key that already
has a `.bin` file adds the new length and one item without taking the old file off, and an expired
`Get` removes both files without touching the counters. So from the constructor's scan on the
counters never undercount (`Overcounts`, kept by every call: `step_overcounts`), but they drift
upwards (`set_twice_drift`).

Because `size` overcounts, the eviction in `Set` frees at least as much as it believes it must, and
the `.bin` files stay within any bound that covers `maxSize` and every content passed to `Set`
(`binBytes_le_of_run`). A single `Set` of content longer than `maxSize` evicts everything and stores
it anyway (`binBytes_exceeds_maxSize`).
-/

namespace VerusGateway.Cache

namespace Dir

@[simp] theorem sizeAt_remove (d : Dir) (p q : String) :
    (d.remove p).sizeAt q = if q = p then 0 else d.sizeAt q := by
  unfold sizeAt; split_ifs with h <;> simp [h]

@[simp] theorem binBytes_writeMetadata (d : Dir) (p : String) (m : Option FileMetadata) (b : Bool) :
    (d.writeMetadata p m b).binBytes = d.binBytes := by
  simp only [binBytes, walkBins, writeMetadata_bins]

@[simp] theorem binCount_writeMetadata (d : Dir) (p : String) (m : Option FileMetadata) (b : Bool) :
    (d.writeMetadata p m b).binCount = d.binCount := by
  simp only [binCount, writeMetadata_bins]

@[simp] theorem lookup_empty (p : String) : empty.bins.lookup p = none := AList.lookup_empty p

@[simp] theorem countAt_remove (d : Dir) (p q : String) :
    (d.remove p).countAt q = if q = p then 0 else d.countAt q := by
  unfold countAt; split_ifs with h <;> simp [h]

end Dir

namespace FilesystemCache

open Dir

/-- The listed files are `.bin` files of the directory with their sizes, no stem listed twice. -/
def Listed (d : Dir) (fs : List FileInfo) : Prop :=
  (∀ f ∈ fs, d.sizeAt f.path = f.size ∧ d.countAt f.path = 1) ∧ (fs.map (·.path)).Nodup

theorem listed_walkBins (d : Dir) : Listed d d.walkBins := by
  refine ⟨fun f hf => ?_, ?_⟩
  · obtain ⟨⟨p, b⟩, hmem, rfl⟩ := List.mem_map.mp hf
    have hb : d.bins.lookup p = some b := AList.mem_lookup_iff.mpr hmem
    simp [sizeAt, countAt, hb]
  · simpa [walkBins, Function.comp_def] using d.bins.nodupKeys

theorem Listed.sublist {d : Dir} {fs gs : List FileInfo} (h : Listed d gs) (hs : fs.Sublist gs) :
    Listed d fs :=
  ⟨fun f hf => h.1 f (hs.subset hf), (hs.map _).nodup h.2⟩

theorem Listed.perm {d : Dir} {fs gs : List FileInfo} (h : Listed d gs) (hp : fs.Perm gs) :
    Listed d fs :=
  ⟨fun f hf => h.1 f (hp.subset hf), (hp.map _).nodup_iff.mpr h.2⟩

theorem Listed.removeEntry {c : FilesystemCache} {f : FileInfo} {fs : List FileInfo}
    (h : Listed c.dir (f :: fs)) : Listed (c.removeEntry f).dir fs := by
  obtain ⟨hm, hnd⟩ := h
  rw [List.map_cons, List.nodup_cons] at hnd
  refine ⟨fun g hg => ?_, hnd.2⟩
  have hne : g.path ≠ f.path := fun heq => hnd.1 (heq ▸ List.mem_map_of_mem _ hg)
  simpa [FilesystemCache.removeEntry, hne] using hm g (List.mem_cons_of_mem _ hg)

/-- Removing listed entries takes their bytes and count off the directory and the counters alike. -/
theorem foldl_removeEntry (fs : List FileInfo) : ∀ c : FilesystemCache, Listed c.dir fs →
    (fs.foldl FilesystemCache.removeEntry c).dir.binBytes = c.dir.binBytes - (fs.map (·.size)).sum ∧
    (fs.foldl FilesystemCache.removeEntry c).size = c.size - (fs.map (·.size)).sum ∧
    (fs.foldl FilesystemCache.removeEntry c).dir.binCount = c.dir.binCount - fs.length ∧
    (fs.foldl FilesystemCache.removeEntry c).items = c.items - fs.length ∧
    (fs.foldl FilesystemCache.removeEntry c).maxSize = c.maxSize := by
  induction fs with
  | nil => simp
  | cons f fs ih =>
    intro c h
    obtain ⟨h1, h2, h3, h4, h5⟩ := ih _ h.removeEntry
    have hf := h.1 f (List.mem_cons_self _ _)
    rw [List.foldl_cons, h1, h2, h3, h4, h5]
    simp only [FilesystemCache.removeEntry, binBytes_remove, binCount_remove, hf.1, hf.2,
      List.map_cons, List.sum_cons, List.length_cons]
    refine ⟨by omega, by omega, by push_cast; omega, by push_cast; omega, trivial⟩

/-- The eviction loop removes the shortest prefix of its list that frees `neededSize`, or all of it. -/
theorem evictLoop_shortest (neededSize : Int) (fs : List FileInfo) : ∀ (freedSize : Int) (c : FilesystemCache),
    ∃ pre, pre <+: fs ∧ evictLoop neededSize fs freedSize c = pre.foldl FilesystemCache.removeEntry c ∧
      (neededSize ≤ freedSize + (pre.map (·.size)).sum ∨ pre = fs) ∧
      ∀ pre', pre' <+: fs → pre'.length < pre.length →
        freedSize + (pre'.map (·.size)).sum < neededSize := by
  induction fs with
  | nil => exact fun _ c => ⟨[], List.prefix_refl _, rfl, .inr rfl, fun _ _ h => absurd h (Nat.not_lt_zero _)⟩
  | cons f fs ih =>
    intro freedSize c
    by_cases hfree : freedSize ≥ neededSize
    · exact ⟨[], List.nil_prefix, by simp [evictLoop, hfree], .inl (by simpa using hfree),
        fun _ _ h => absurd h (Nat.not_lt_zero _)⟩
    · obtain ⟨pre, hpre, heq, hdone, hmin⟩ := ih (freedSize + f.size) (c.removeEntry f)
      refine ⟨f :: pre, List.cons_prefix_cons.mpr ⟨rfl, hpre⟩, by simp [evictLoop, hfree, heq], ?_, ?_⟩
      · rcases hdone with h | rfl
        · left; simp only [List.map_cons, List.sum_cons]; omega
        · exact .inr rfl
      · intro pre' hpre' hlen
        rcases List.prefix_cons_iff.mp hpre' with rfl | ⟨t, rfl, ht⟩
        · simp only [List.map_nil, List.sum_nil]; omega
        · have := hmin t ht (by simpa using hlen)
          simp only [List.map_cons, List.sum_cons]; omega

theorem bubblePass_perm (l : List FileInfo) (k : Nat) : (bubblePass l k).Perm l := by
  induction l, k using bubblePass.induct with
  | case1 a b rest k h ih =>
    rw [bubblePass, if_pos h]
    exact (ih.cons b).trans (List.Perm.swap a b rest)
  | case2 a b rest k h ih =>
    rw [bubblePass, if_neg h]
    exact ih.cons a
  | case3 k l h =>
    unfold bubblePass
    split
    · exact (h _ _ _ _ rfl rfl).elim
    · exact List.Perm.refl _

theorem bubbleSort_perm (files : List FileInfo) : (bubbleSort files).Perm files := by
  unfold bubbleSort
  suffices ∀ (is : List Nat) (l : List FileInfo), l.Perm files →
      (is.foldl (fun l i => bubblePass l (files.length - i - 1)) l).Perm files from
    this _ _ (List.Perm.refl _)
  intro is
  induction is with
  | nil => exact fun _ h => h
  | cons i is ih => exact fun l h => ih _ ((bubblePass_perm _ _).trans h)

/-- `evictOldest` takes the same bytes off the directory and the counter: `neededSize`, or every file. -/
theorem evictOldest_spec (c : FilesystemCache) (neededSize : Int) :
    ∃ freed, (c.evictOldest neededSize).dir.binBytes = c.dir.binBytes - freed ∧
      (c.evictOldest neededSize).size = c.size - freed ∧
      (c.evictOldest neededSize).items - (c.evictOldest neededSize).dir.binCount =
        c.items - c.dir.binCount ∧
      (c.evictOldest neededSize).maxSize = c.maxSize ∧
      (neededSize ≤ freed ∨ (c.evictOldest neededSize).dir.binBytes = 0) := by
  obtain ⟨pre, hpre, heq, hdone, -⟩ := evictLoop_shortest neededSize (bubbleSort c.dir.walkBins) 0 c
  have hlisted : Listed c.dir pre :=
    ((listed_walkBins c.dir).perm (bubbleSort_perm _)).sublist hpre.sublist
  obtain ⟨h1, h2, h3, h4, h5⟩ := foldl_removeEntry pre c hlisted
  refine ⟨(pre.map (·.size)).sum, ?_, ?_, ?_, ?_, ?_⟩ <;> simp only [evictOldest, heq, h1, h2, h3, h4, h5]
  · omega
  · rcases hdone with h | rfl
    · exact .inl (by simpa using h)
    · right
      rw [((bubbleSort_perm _).map _).sum_eq, binBytes]
      omega

theorem cleanup_eq (c : FilesystemCache) (now : Int) :
    c.cleanup now =
      (c.dir.walkBins.filter fun f => now - f.modTime > c.ttl).foldl FilesystemCache.removeEntry c := by
  unfold cleanup
  suffices ∀ (fs : List FileInfo) (c' : FilesystemCache), c'.ttl = c.ttl →
      fs.foldl (fun c f => if now - f.modTime > c.ttl then c.removeEntry f else c) c' =
        (fs.filter fun f => now - f.modTime > c.ttl).foldl FilesystemCache.removeEntry c' from
    this _ _ rfl
  intro fs
  induction fs with
  | nil => exact fun _ _ => rfl
  | cons f fs ih =>
    intro c' hc'
    by_cases hf : now - f.modTime > c.ttl
    · simp only [List.foldl_cons, hc', if_pos hf, List.filter_cons, hf, decide_True, if_true]
      exact ih _ hc'
    · simp only [List.foldl_cons, hc', if_neg hf, List.filter_cons, hf, decide_False,
        Bool.false_eq_true, if_false]
      exact ih _ hc'

theorem cleanup_spec (c : FilesystemCache) (now : Int) :
    (c.cleanup now).size - (c.cleanup now).dir.binBytes = c.size - c.dir.binBytes ∧
      (c.cleanup now).items - (c.cleanup now).dir.binCount = c.items - c.dir.binCount ∧
      (c.cleanup now).dir.binBytes ≤ c.dir.binBytes ∧ (c.cleanup now).maxSize = c.maxSize := by
  have hl : Listed c.dir (c.dir.walkBins.filter fun f => now - f.modTime > c.ttl) :=
    (listed_walkBins c.dir).sublist (List.filter_sublist _)
  obtain ⟨h1, h2, h3, h4, h5⟩ := foldl_removeEntry _ c hl
  have hsum : 0 ≤ ((c.dir.walkBins.filter fun f => now - f.modTime > c.ttl).map (·.size)).sum :=
    List.sum_nonneg fun x hx => by
      obtain ⟨f, hf, rfl⟩ := List.mem_map.mp hx
      exact (hl.1 f hf).1 ▸ sizeAt_nonneg _ _
  rw [cleanup_eq, h1, h2, h3, h4, h5]
  exact ⟨by omega, by omega, by omega, rfl⟩

/-! ### The counters against the directory -/

/-- Every `.bin` byte and every `.bin` file is counted, possibly more than once. -/
def Overcounts (c : FilesystemCache) : Prop := c.dir.binBytes ≤ c.size ∧ c.dir.binCount ≤ c.items

variable (sha256Hex : String → String)

theorem makeRoom_overcounts (c : FilesystemCache) (n : Int) (h : Overcounts c) :
    Overcounts (c.makeRoom n) := by
  unfold makeRoom
  split_ifs
  · obtain ⟨freed, e1, e2, e3, -, -⟩ := evictOldest_spec c n
    exact ⟨by rw [e1, e2]; exact Int.sub_le_sub_right h.1 _, by have := h.2; omega⟩
  · exact h

theorem get_overcounts (c : FilesystemCache) (ctx : Option GoError) (now : Int) (k : String)
    (h : Overcounts c) : Overcounts (get sha256Hex c ctx now k).1 := by
  obtain ⟨_, _, hg | hg⟩ := get_fst sha256Hex c ctx now k <;> rw [hg]
  · exact h
  · have := sizeAt_nonneg c.dir (getPaths sha256Hex k)
    have := countAt_nonneg c.dir (getPaths sha256Hex k)
    exact ⟨by simp only [binBytes_remove]; have := h.1; omega,
      by simp only [binCount_remove]; have := h.2; omega⟩

theorem set_overcounts (c : FilesystemCache) (ctx : Option GoError) (now : Int) (k : String)
    (f : File) (ttl : Int) (h : Overcounts c) : Overcounts (set sha256Hex .none c ctx now k f ttl).1 := by
  have h₁ := makeRoom_overcounts c f.content.length h
  unfold set
  split
  · exact h
  · simp only [Overcounts, binBytes_writeMetadata, binCount_writeMetadata, binBytes_writeBin,
      binCount_writeBin]
    have := sizeAt_nonneg (c.makeRoom f.content.length).dir (getPaths sha256Hex k)
    have := countAt_nonneg (c.makeRoom f.content.length).dir (getPaths sha256Hex k)
    exact ⟨by have := h₁.1; omega, by have := h₁.2; omega⟩

theorem delete_overcounts (c : FilesystemCache) (ctx : Option GoError) (k : String)
    (h : Overcounts c) : Overcounts (delete sha256Hex c ctx k).1 := by
  unfold delete
  split
  · exact h
  · obtain ⟨h1, h2⟩ := h
    cases hb : c.dir.bins.lookup (getPaths sha256Hex k) <;>
      simp only [Overcounts, hb, binBytes_remove, binCount_remove, sizeAt, countAt, Option.map_none',
        Option.map_some', Option.getD_none, Option.getD_some] <;> omega

theorem clear_overcounts (c : FilesystemCache) (ctx : Option GoError) (h : Overcounts c) :
    Overcounts (clear c ctx).1 := by
  unfold clear
  split
  · exact h
  · exact ⟨le_refl _, le_refl _⟩

theorem cleanup_overcounts (c : FilesystemCache) (now : Int) (h : Overcounts c) :
    Overcounts (c.cleanup now) := by
  obtain ⟨h1, h2, -, -⟩ := cleanup_spec c now
  exact ⟨by have := h.1; omega, by have := h.2; omega⟩

/-- Every call keeps the counters at or above what the directory holds. -/
theorem step_overcounts (c : FilesystemCache) (call : Call) (h : Overcounts c) :
    Overcounts ((filesystemCache sha256Hex).step c call) := by
  obtain ⟨ctx, now, op⟩ := call
  cases op with
  | get k => exact get_overcounts sha256Hex c ctx now k h
  | set k f ttl => exact set_overcounts sha256Hex c ctx now k f ttl h
  | delete k => exact delete_overcounts sha256Hex c ctx k h
  | clear => exact clear_overcounts c ctx h
  | tick => exact cleanup_overcounts c now h

theorem step_maxSize (c : FilesystemCache) (call : Call) :
    ((filesystemCache sha256Hex).step c call).maxSize = c.maxSize := by
  obtain ⟨ctx, now, op⟩ := call
  cases op with
  | get k => obtain ⟨_, _, hg | hg⟩ := get_fst sha256Hex c ctx now k <;> exact (congrArg maxSize hg).trans rfl
  | set k f ttl =>
    simp only [Cache.step, filesystemCache, set]
    split
    · rfl
    · simp only [makeRoom]; split_ifs
      · exact (evictOldest_spec c _).choose_spec.2.2.2.1
      · rfl
  | delete k => simp only [Cache.step, filesystemCache, delete]; split <;> (try split) <;> rfl
  | clear => simp only [Cache.step, filesystemCache, clear]; split <;> rfl
  | tick => exact (cleanup_spec c now).2.2.2

theorem binBytes_nonneg (d : Dir) : 0 ≤ d.binBytes := by
  rw [binBytes_eq]
  exact List.sum_nonneg fun x hx => by
    obtain ⟨e, -, rfl⟩ := List.mem_map.mp hx
    exact Int.natCast_nonneg _

theorem get_binBytes_le (c : FilesystemCache) (ctx : Option GoError) (now : Int) (k : String) :
    (get sha256Hex c ctx now k).1.dir.binBytes ≤ c.dir.binBytes := by
  obtain ⟨_, _, hg | hg⟩ := get_fst sha256Hex c ctx now k
  · rw [hg]
  · rw [hg, binBytes_remove]; have := sizeAt_nonneg c.dir (getPaths sha256Hex k); omega

theorem delete_binBytes_le (c : FilesystemCache) (ctx : Option GoError) (k : String) :
    (delete sha256Hex c ctx k).1.dir.binBytes ≤ c.dir.binBytes := by
  unfold delete
  split
  · exact le_refl _
  · have := sizeAt_nonneg c.dir (getPaths sha256Hex k)
    cases hb : c.dir.bins.lookup (getPaths sha256Hex k) <;> simp only [hb, binBytes_remove] <;> omega

/-! ### The size ceiling -/

/-- The bytes a call asks to store: a `Set`'s content length, nothing for the other calls. -/
def setLength (call : Call) : Int :=
  match call.op with
  | .set _ f _ => f.content.length
  | _ => 0

theorem set_bounded (B : Int) (c : FilesystemCache) (ctx : Option GoError) (now : Int) (k : String)
    (f : File) (ttl : Int) (h : Overcounts c) (hB : c.dir.binBytes ≤ B) (hmax : c.maxSize ≤ B)
    (hf : (f.content.length : Int) ≤ B) : (set sha256Hex .none c ctx now k f ttl).1.dir.binBytes ≤ B := by
  unfold set
  split
  · exact hB
  · simp only [binBytes_writeMetadata, binBytes_writeBin]
    unfold makeRoom
    split_ifs with hroom
    · obtain ⟨freed, e1, -, -, -, hdone⟩ := evictOldest_spec c f.content.length
      have hs := sizeAt_nonneg (c.evictOldest f.content.length).dir (getPaths sha256Hex k)
      have := h.1
      rcases hdone with hfreed | hzero
      · rw [e1]; omega
      · rw [hzero]; omega
    · have hs := sizeAt_nonneg c.dir (getPaths sha256Hex k)
      have := h.1
      omega

theorem step_bounded (B : Int) (c : FilesystemCache) (call : Call) (h : Overcounts c)
    (hB : c.dir.binBytes ≤ B) (hmax : c.maxSize ≤ B) (hcall : setLength call ≤ B) :
    ((filesystemCache sha256Hex).step c call).dir.binBytes ≤ B := by
  obtain ⟨ctx, now, op⟩ := call
  cases op with
  | get k => exact (get_binBytes_le sha256Hex c ctx now k).trans hB
  | set k f ttl => exact set_bounded sha256Hex B c ctx now k f ttl h hB hmax hcall
  | delete k => exact (delete_binBytes_le sha256Hex c ctx k).trans hB
  | clear =>
    simp only [Cache.step, filesystemCache, clear]
    split
    · exact hB
    · exact (binBytes_nonneg c.dir).trans hB
  | tick => exact (cleanup_spec c now).2.2.1.trans hB

theorem run_bounded (B : Int) (calls : List Call) : ∀ c : FilesystemCache, Overcounts c →
    c.dir.binBytes ≤ B → c.maxSize ≤ B → (∀ call ∈ calls, setLength call ≤ B) →
    ((filesystemCache sha256Hex).run c calls).dir.binBytes ≤ B := by
  induction calls with
  | nil => exact fun _ _ hB _ _ => hB
  | cons call calls ih =>
    intro c h hB hmax hcalls
    exact ih _ (step_overcounts sha256Hex c call h)
      (step_bounded sha256Hex B c call h hB hmax (hcalls call (List.mem_cons_self _ _)))
      (by rw [step_maxSize]; exact hmax) fun x hx => hcalls x (List.mem_cons_of_mem _ hx)

/-- From an empty directory, the `.bin` files never hold more than any bound that is at least
`maxSize` and at least every content passed to `Set` in the run. -/
theorem binBytes_le_of_run (cfg : FilesystemCacheConfig) (calls : List Call) (B : Int) (hB : 0 ≤ B)
    (hmax : (newFilesystemCache cfg Dir.empty).maxSize ≤ B) (hcalls : ∀ call ∈ calls, setLength call ≤ B) :
    ((filesystemCache sha256Hex).run (newFilesystemCache cfg Dir.empty) calls).dir.binBytes ≤ B :=
  run_bounded sha256Hex B calls _ ⟨le_refl _, le_refl _⟩ hB hmax hcalls

theorem binBytes_le_of_run_oversized :
    ((filesystemCache id).run (newFilesystemCache ⟨1, 0⟩ Dir.empty)
      [⟨none, 0, .set "k" ⟨"", "", [0, 0], none, 0⟩ 0⟩]).dir.binBytes ≤ 2 :=
  binBytes_le_of_run id ⟨1, 0⟩ _ 2 (by decide) (by decide) (by simp [setLength])

/-- A run whose `.bin` files end above `maxSize`: one `Set` of two bytes into a one-byte cache. -/
theorem binBytes_exceeds_maxSize : ¬ ∀ (sha256Hex : String → String) (cfg : FilesystemCacheConfig)
    (calls : List Call),
    ((filesystemCache sha256Hex).run (newFilesystemCache cfg Dir.empty) calls).dir.binBytes ≤
      (newFilesystemCache cfg Dir.empty).maxSize :=
  fun h => absurd (h id ⟨1, 0⟩ [⟨none, 0, .set "k" ⟨"", "", [0, 0], none, 0⟩ 0⟩]) (by decide)

/-- Two `Set`s of the same one-byte file on one key: two items and two bytes counted, one `.bin` file
of one byte on disk. -/
theorem set_twice_drift :
    ∃ c, (filesystemCache sha256Hex).run (newFilesystemCache ⟨0, 0⟩ Dir.empty)
        [⟨none, 0, .set "k" ⟨"", "", [0x61], none, 0⟩ 0⟩, ⟨none, 1, .set "k" ⟨"", "", [0x61], none, 0⟩ 0⟩] = c ∧
      c.items = 2 ∧ c.dir.binCount = 1 ∧ c.size = 2 ∧ c.dir.binBytes = 1 := by
  refine ⟨_, rfl, ?_⟩
  simp [Cache.run, Cache.step, filesystemCache, set, makeRoom, newFilesystemCache, calculateSize,
    binCount_writeBin, binBytes_writeBin, countAt, sizeAt, Dir.writeMetadata]

end FilesystemCache

end VerusGateway.Cache

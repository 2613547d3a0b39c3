import VerusGateway.Cache.Filesystem.Counters

/-!
# The file-system cache: what a hit returns

Eviction, the sweeper and an expired `Get` only remove entries, both files of a stem at once
(`Dir.Shrinks`). A `Set` rewrites the `.bin` file of its stem and, when it passes metadata, the
`.meta` file; without metadata the `.meta` file of an earlier `Set` stays. So, with `getPaths`
injective (SHA-256 taken as injective on keys), every `.bin` file holds the content and the clock of
the key's stored `Set`, and the `.meta` file beside it the metadata that `Set` passed, if any
(`Holds`). That is the refinement `filesystem_refines`: a hit returns the stored content, and the stored
metadata whenever the `Set` passed some. `Get` expires on the configured `ttl` from the `.bin` file's
modification time, whatever `ttl` the `Set` was given (`get_after_deadline`, `get_before_deadline`).

A `Set` whose content write fails part-way leaves the truncated content under the old `.meta` file,
and the next `Get` serves the two together (`set_cut_short_serves_prefix`).
-/

namespace VerusGateway.Cache

namespace Dir

/-- `d'` keeps some of `d`'s `.bin` files, each with the `.meta` file `d` has beside it: what
removing entries leaves. -/
def Shrinks (d d' : Dir) : Prop :=
  ∀ p b, d'.bins.lookup p = some b → d.bins.lookup p = some b ∧ d'.metas p = d.metas p

theorem Shrinks.refl (d : Dir) : d.Shrinks d := fun _ _ h => ⟨h, rfl⟩

theorem Shrinks.trans {d₁ d₂ d₃ : Dir} (h₁ : d₁.Shrinks d₂) (h₂ : d₂.Shrinks d₃) : d₁.Shrinks d₃ :=
  fun p b h => ⟨(h₁ p b (h₂ p b h).1).1, (h₂ p b h).2.trans (h₁ p b (h₂ p b h).1).2⟩

theorem shrinks_remove (d : Dir) (q : String) : d.Shrinks (d.remove q) := by
  intro p b h
  rw [lookup_remove] at h
  split_ifs at h with hp
  exact ⟨h, by simp [hp]⟩

@[simp] theorem metas_writeMetadata_self (d : Dir) (p : String) (m : FileMetadata) :
    (d.writeMetadata p (some m) false).metas p = some (.json m) := by
  simp [writeMetadata, writeMeta]

theorem metas_writeMetadata_ne (d : Dir) {p q : String} (h : q ≠ p) (m : Option FileMetadata)
    (cutShort : Bool) : (d.writeMetadata p m cutShort).metas q = d.metas q := by
  cases m <;> simp [writeMetadata, writeMeta, Function.update_noteq h]

end Dir

namespace FilesystemCache

open Dir

/-! ### Removal only shrinks the directory -/

theorem foldl_removeEntry_shrinks (fs : List FileInfo) :
    ∀ c : FilesystemCache, c.dir.Shrinks (fs.foldl FilesystemCache.removeEntry c).dir := by
  induction fs with
  | nil => exact fun c => Shrinks.refl c.dir
  | cons f fs ih => exact fun c => (shrinks_remove c.dir f.path).trans (ih _)

theorem foldl_removeEntry_ttl (fs : List FileInfo) :
    ∀ c : FilesystemCache, (fs.foldl FilesystemCache.removeEntry c).ttl = c.ttl := by
  induction fs with
  | nil => exact fun _ => rfl
  | cons f fs ih => exact fun c => ih _

theorem makeRoom_shrinks (c : FilesystemCache) (n : Int) : c.dir.Shrinks (c.makeRoom n).dir := by
  unfold makeRoom evictOldest
  split_ifs
  · obtain ⟨pre, -, heq, -, -⟩ := evictLoop_shortest n (bubbleSort c.dir.walkBins) 0 c
    exact heq ▸ foldl_removeEntry_shrinks pre c
  · exact Shrinks.refl _

theorem makeRoom_ttl (c : FilesystemCache) (n : Int) : (c.makeRoom n).ttl = c.ttl := by
  unfold makeRoom evictOldest
  split_ifs
  · obtain ⟨pre, -, heq, -, -⟩ := evictLoop_shortest n (bubbleSort c.dir.walkBins) 0 c
    exact heq ▸ foldl_removeEntry_ttl pre c
  · rfl

theorem cleanup_shrinks (c : FilesystemCache) (now : Int) : c.dir.Shrinks (c.cleanup now).dir :=
  cleanup_eq c now ▸ foldl_removeEntry_shrinks _ c

variable (sha256Hex : String → String)

/-! ### `Get`, case by case -/

theorem get_of_lookup_none (c : FilesystemCache) (now : Int) (k : String)
    (h : c.dir.bins.lookup (getPaths sha256Hex k) = none) :
    get sha256Hex c none now k = ({ c with misses := c.misses + 1 }, .error errCacheMiss) := by
  simp [get, h]

theorem get_of_expired (c : FilesystemCache) (now : Int) (k : String) (b : BinFile)
    (h : c.dir.bins.lookup (getPaths sha256Hex k) = some b) (hexp : now - b.modTime > c.ttl) :
    get sha256Hex c none now k =
      ({ c with misses := c.misses + 1, dir := c.dir.remove (getPaths sha256Hex k) },
        .error errCacheMiss) := by
  simp [get, h, hexp]

theorem get_of_live (c : FilesystemCache) (now : Int) (k : String) (b : BinFile)
    (h : c.dir.bins.lookup (getPaths sha256Hex k) = some b) (hlive : ¬ now - b.modTime > c.ttl) :
    get sha256Hex c none now k =
      ({ c with hits := c.hits + 1 },
        .ok ⟨"", "", b.content, some (readMeta (c.dir.metas (getPaths sha256Hex k))), now⟩) := by
  simp [get, h, hlive]

theorem get_shrinks (c : FilesystemCache) (ctx : Option GoError) (now : Int) (k : String) :
    c.dir.Shrinks (get sha256Hex c ctx now k).1.dir := by
  obtain ⟨_, _, hg | hg⟩ := get_fst sha256Hex c ctx now k <;> rw [hg]
  · exact Shrinks.refl _
  · exact shrinks_remove _ _

/-! ### The stored `Set` of every key -/

theorem getPaths_injective (hinj : Function.Injective sha256Hex) :
    Function.Injective (getPaths sha256Hex) := by
  intro k k' h
  apply hinj
  have hd := congrArg String.data h
  simp only [getPaths, String.data_append] at hd
  have hl := congrArg List.length hd
  simp only [List.length_append, List.length_take] at hl
  have hlen : (sha256Hex k).data.length = (sha256Hex k').data.length := by omega
  exact String.ext (List.append_inj' hd hlen).2

/-- Every `.bin` file holds the content and the clock of its key's stored `Set`, and the `.meta`
file beside it the metadata that `Set` passed, when it passed any. -/
def Holds (c : FilesystemCache) (A : Store) : Prop :=
  ∀ k b, c.dir.bins.lookup (getPaths sha256Hex k) = some b → ∃ e, A k = some e ∧
    b = ⟨e.file.content, e.setAt⟩ ∧
    ∀ m, e.file.metadata = some m → c.dir.metas (getPaths sha256Hex k) = some (.json m)

variable {sha256Hex}

theorem Holds.shrinks {c c' : FilesystemCache} {A : Store} (h : Holds sha256Hex c A)
    (hs : c.dir.Shrinks c'.dir) : Holds sha256Hex c' A := by
  intro k b hb
  obtain ⟨hb', hm⟩ := hs _ _ hb
  obtain ⟨e, he, rfl, hmeta⟩ := h k b hb'
  exact ⟨e, he, rfl, fun m hme => hm.trans (hmeta m hme)⟩

theorem holds_empty (c : FilesystemCache) (hc : c.dir = Dir.empty) (A : Store) :
    Holds sha256Hex c A := by
  intro k b hb
  simp [hc] at hb

theorem set_holds (hinj : Function.Injective sha256Hex) (c : FilesystemCache) (A : Store) (now : Int)
    (k : String) (f : File) (ttl : Int) (h : Holds sha256Hex c A) :
    Holds sha256Hex (set sha256Hex .none c none now k f ttl).1
      (Function.update A k (some ⟨f, now, ttl⟩)) := by
  have h₁ := h.shrinks (makeRoom_shrinks c f.content.length)
  intro k' b hb
  simp only [set, writeMetadata_bins, lookup_writeBin] at hb ⊢
  by_cases hk : k' = k
  · subst hk
    simp only [if_true, Option.some.injEq] at hb
    subst hb
    refine ⟨_, Function.update_same _ _ _, rfl, fun m hm => ?_⟩
    simp only at hm
    rw [hm, metas_writeMetadata_self]
  · have hp : getPaths sha256Hex k' ≠ getPaths sha256Hex k := (getPaths_injective sha256Hex hinj).ne hk
    rw [if_neg hp] at hb
    obtain ⟨e, he, hbe, hmeta⟩ := h₁ k' b hb
    refine ⟨e, by rw [Function.update_noteq hk, he], hbe, fun m hm => ?_⟩
    rw [metas_writeMetadata_ne _ hp, metas_writeBin]
    exact hmeta m hm

theorem delete_holds (c : FilesystemCache) (A : Store) (k : String) (h : Holds sha256Hex c A) :
    Holds sha256Hex (delete sha256Hex c none k).1 (Function.update A k none) := by
  have hd : (delete sha256Hex c none k).1.dir = c.dir.remove (getPaths sha256Hex k) := by
    simp only [delete]; split <;> rfl
  intro k' b hb
  rw [hd, lookup_remove] at hb
  split_ifs at hb with hp
  have hk : k' ≠ k := fun hk => hp (congrArg _ hk)
  obtain ⟨e, he, hbe, hmeta⟩ := h k' b hb
  refine ⟨e, by rw [Function.update_noteq hk, he], hbe, fun m hm => ?_⟩
  rw [hd, metas_remove, if_neg hp]
  exact hmeta m hm

theorem step_holds (hinj : Function.Injective sha256Hex) (c : FilesystemCache) (A : Store) (call : Call)
    (h : Holds sha256Hex c A) :
    Holds sha256Hex ((filesystemCache sha256Hex).step c call) (A.apply call) := by
  obtain ⟨ctx, now, op⟩ := call
  cases ctx with
  | some e =>
    cases op with
    | tick => exact h.shrinks (cleanup_shrinks c now)
    | _ => exact h
  | none =>
    cases op with
    | get k => exact h.shrinks (get_shrinks sha256Hex c none now k)
    | set k f ttl => exact set_holds hinj c A now k f ttl h
    | delete k => exact delete_holds c A k h
    | clear => exact holds_empty _ rfl _
    | tick => exact h.shrinks (cleanup_shrinks c now)

/-- The file-system cache implements the store, metadata only where the `Set` passed some. -/
theorem filesystem_refines (hinj : Function.Injective sha256Hex) :
    (filesystemCache sha256Hex).Refines (Holds sha256Hex) Agrees := by
  refine ⟨fun c A call h => step_holds hinj c A call h, ?_⟩
  intro c A ctx now k c' f' h hget
  simp only [filesystemCache] at hget
  cases ctx with
  | some e => simp [get] at hget
  | none =>
    cases hb : c.dir.bins.lookup (getPaths sha256Hex k) with
    | none => simp [get_of_lookup_none sha256Hex c now k hb] at hget
    | some b =>
      by_cases hexp : now - b.modTime > c.ttl
      · simp [get_of_expired sha256Hex c now k b hb hexp] at hget
      · rw [get_of_live sha256Hex c now k b hb hexp, Prod.mk.injEq, Except.ok.injEq] at hget
        obtain ⟨e, he, rfl, hmeta⟩ := h k b hb
        refine ⟨e, he, by rw [← hget.2], fun m hm => ?_⟩
        rw [← hget.2, hmeta m hm]
        rfl

/-! ### Expiry -/

theorem step_ttl (c : FilesystemCache) (call : Call) :
    ((filesystemCache sha256Hex).step c call).ttl = c.ttl := by
  obtain ⟨ctx, now, op⟩ := call
  cases op with
  | get k => obtain ⟨_, _, hg | hg⟩ := get_fst sha256Hex c ctx now k <;> exact (congrArg ttl hg).trans rfl
  | set k f ttl =>
    simp only [Cache.step, filesystemCache, set]
    split
    · rfl
    · exact makeRoom_ttl c _
  | delete k => simp only [Cache.step, filesystemCache, delete]; split <;> (try split) <;> rfl
  | clear => simp only [Cache.step, filesystemCache, clear]; split <;> rfl
  | tick =>
    show (c.cleanup now).ttl = c.ttl
    rw [cleanup_eq]
    exact foldl_removeEntry_ttl _ c

theorem run_ttl (calls : List Call) :
    ∀ c : FilesystemCache, ((filesystemCache sha256Hex).run c calls).ttl = c.ttl := by
  induction calls with
  | nil => exact fun _ => rfl
  | cons call calls ih => exact fun c => (ih _).trans (step_ttl c call)

theorem get_after_deadline {c : FilesystemCache} {A : Store} {k : String} {e : Stored} {t : Int}
    (h : Holds sha256Hex c A) (he : A k = some e) (ht : e.setAt + c.ttl < t) :
    (get sha256Hex c none t k).2 = .error errCacheMiss ∧
      (get sha256Hex c none t k).1.dir.bins.lookup (getPaths sha256Hex k) = none := by
  cases hb : c.dir.bins.lookup (getPaths sha256Hex k) with
  | none => simp [get_of_lookup_none sha256Hex c t k hb, hb]
  | some b =>
    obtain ⟨e', he', rfl, -⟩ := h k b hb
    obtain rfl : e' = e := Option.some.inj (he'.symm.trans he)
    rw [get_of_expired sha256Hex c t k _ hb (by simp only; omega)]
    simp

theorem get_before_deadline {c : FilesystemCache} {A : Store} {k : String} {e : Stored} {t : Int}
    (h : Holds sha256Hex c A) (he : A k = some e) (ht : t ≤ e.setAt + c.ttl)
    (hpresent : (c.dir.bins.lookup (getPaths sha256Hex k)).isSome) :
    ∃ f', (get sha256Hex c none t k).2 = .ok f' ∧ f'.content = e.file.content := by
  obtain ⟨b, hb⟩ := Option.isSome_iff_exists.mp hpresent
  obtain ⟨e', he', rfl, -⟩ := h k b hb
  obtain rfl : e' = e := Option.some.inj (he'.symm.trans he)
  rw [get_of_live sha256Hex c t k _ hb (by simp only; omega)]
  exact ⟨_, rfl, rfl⟩

variable (sha256Hex)

theorem get_set_self (c : FilesystemCache) (now : Int) (k : String) (f : File) (ttl t : Int)
    (ht : t - now ≤ c.ttl) :
    ∃ m, (get sha256Hex (set sha256Hex .none c none now k f ttl).1 none t k).2 = .ok ⟨"", "", f.content, some m, t⟩ := by
  have hb : (set sha256Hex .none c none now k f ttl).1.dir.bins.lookup (getPaths sha256Hex k) =
      some ⟨f.content, now⟩ := by
    simp [set]
  have httl : (set sha256Hex .none c none now k f ttl).1.ttl = c.ttl := makeRoom_ttl c _
  rw [get_of_live sha256Hex _ t k _ hb (by rw [httl]; simp only; omega)]
  exact ⟨_, rfl⟩

/-! ### A write cut short -/

/-- `Set` of `ab` with metadata, then a `Set` of `xyz` whose content write fails after one byte: the
next `Get` serves the byte `x` with the first `Set`'s metadata. -/
theorem set_cut_short_serves_prefix (err : GoError) (m m' : FileMetadata) :
    ∃ c₁ c₂ err',
      set sha256Hex .none (newFilesystemCache ⟨0, 0⟩ Dir.empty) none 0 "k"
        ⟨"", "", [0x61, 0x62], some m, 0⟩ 0 = (c₁, none) ∧
      set sha256Hex (.content 1 err) c₁ none 1 "k" ⟨"", "", [0x78, 0x79, 0x7A], some m', 0⟩ 0 =
        (c₂, some err') ∧
      (get sha256Hex c₂ none 2 "k").2 = .ok ⟨"", "", [0x78], some m, 2⟩ := by
  refine ⟨_, _, _, rfl, rfl, ?_⟩
  simp [get, set, makeRoom, newFilesystemCache, calculateSize, Dir.writeMetadata, Dir.writeMeta,
    readMeta, hour, second]

end FilesystemCache

end VerusGateway.Cache

import VerusGateway.Cache.Filesystem.Counters
import Mathlib.Data.List.Sort

/-!
# The eviction order, and how much is evicted

`evictOldest` sorts the walked `.bin` files with a bubble sort (`bubbleSort`: an outer `for` over
`bubblePass`) and removes them in that order until the freed bytes reach its argument.

The sort returns the entries it is given, each once, by non-decreasing modification time
(`bubbleSort_sorted`). Each pass carries a newest entry of the unsorted prefix to that prefix's end
(`bubblePass_last_max`) and leaves the sorted suffix behind it alone (`bubblePass_append`); the outer
loop keeps `BubbleInv`.

`Set` calls `evictOldest` with the new content's length, not with the overflow
`size + len(content) - maxSize`. The entries it removes are the shortest prefix of that order whose
sizes reach the content's length, or all of them (`makeRoom_evicts_shortest`). When the cache was not
full, that is more than the overflow asks for: in `set_evicts_past_fit` removing the older of two
one-byte entries would make room for two bytes under a limit of three, and both are removed.
-/

namespace VerusGateway.Cache.FilesystemCache

/-! ## The sort -/

@[simp] theorem bubblePass_zero (l : List FileInfo) : bubblePass l 0 = l := by
  rcases l with _ | ⟨a, _ | ⟨b, rest⟩⟩ <;> rfl

theorem bubblePass_append (k : Nat) : ∀ (l₁ l₂ : List FileInfo), k < l₁.length →
    bubblePass (l₁ ++ l₂) k = bubblePass l₁ k ++ l₂ := by
  induction k with
  | zero => intro l₁ l₂ _; simp
  | succ k ih =>
    rintro (_ | ⟨a, _ | ⟨b, rest⟩⟩) l₂ h
    · simp at h
    · simp at h
    · have hl : k < (a :: rest).length := by simp only [List.length_cons] at h ⊢; omega
      have iha := ih (a :: rest) l₂ hl
      have ihb := ih (b :: rest) l₂ hl
      simp only [List.cons_append] at iha ihb ⊢
      simp only [bubblePass, iha, ihb]
      split_ifs <;> rfl

/-- A pass over exactly `k + 1` entries ends with one that no entry is newer than. -/
theorem bubblePass_last_max (k : Nat) : ∀ l : List FileInfo, l.length = k + 1 →
    ∃ q m, bubblePass l k = q ++ [m] ∧ ∀ x ∈ l, x.modTime ≤ m.modTime := by
  induction k with
  | zero =>
    intro l h
    obtain ⟨m, rfl⟩ := List.length_eq_one.mp h
    exact ⟨[], m, rfl, by simp⟩
  | succ k ih =>
    rintro (_ | ⟨a, _ | ⟨b, rest⟩⟩) h
    · simp at h
    · simp at h
    · have hl : rest.length + 1 = k + 1 := by simpa using h
      by_cases hab : a.modTime > b.modTime
      · obtain ⟨q, m, hq, hm⟩ := ih (a :: rest) hl
        simp only [List.mem_cons, forall_eq_or_imp] at hm ⊢
        obtain ⟨ha, hrest⟩ := hm
        exact ⟨b :: q, m, by simp only [bubblePass, if_pos hab, hq, List.cons_append],
          ha, by omega, hrest⟩
      · obtain ⟨q, m, hq, hm⟩ := ih (b :: rest) hl
        simp only [List.mem_cons, forall_eq_or_imp] at hm ⊢
        exact ⟨a :: q, m, by simp only [bubblePass, if_neg hab, hq, List.cons_append],
          by omega, hm⟩

/-- The outer loop's invariant: the list is an unsorted prefix `p` before a sorted suffix `s`, and no
entry of `p` is newer than an entry of `s`. -/
def BubbleInv (l p s : List FileInfo) : Prop :=
  l = p ++ s ∧ s.Sorted (fun a b => a.modTime ≤ b.modTime) ∧
    ∀ x ∈ p, ∀ y ∈ s, x.modTime ≤ y.modTime

/-- A pass over an unsorted prefix of `k + 1` entries moves a newest of them to the sorted suffix. -/
theorem bubblePass_inv {l p s : List FileInfo} {k : Nat} (hinv : BubbleInv l p s)
    (hp : p.length = k + 1) : ∃ q m, BubbleInv (bubblePass l k) q (m :: s) ∧ q.length = k := by
  obtain ⟨rfl, hs, hps⟩ := hinv
  obtain ⟨q, m, hq, hm⟩ := bubblePass_last_max k p hp
  have hperm : (q ++ [m]).Perm p := hq ▸ bubblePass_perm p k
  have hmem : ∀ x ∈ q ++ [m], x ∈ p := fun x hx => hperm.subset hx
  have hmp : m ∈ p := hmem m (List.mem_append_right _ (List.mem_singleton_self _))
  refine ⟨q, m, ⟨?_, List.sorted_cons.mpr ⟨hps m hmp, hs⟩, ?_⟩, ?_⟩
  · rw [bubblePass_append k p s (by omega), hq, List.append_assoc, List.singleton_append]
  · intro x hx y hy
    have hxp := hmem x (List.mem_append_left _ hx)
    rcases List.mem_cons.mp hy with rfl | hy
    · exact hm x hxp
    · exact hps x hxp y hy
  · have := hperm.length_eq
    simp only [List.length_append, List.length_singleton] at this
    omega

/-- After `i` passes the last `i` entries are sorted and behind the rest. -/
theorem bubbleSort_inv (files : List FileInfo) (i : Nat) (hi : i ≤ files.length - 1) : ∃ p s,
    BubbleInv ((List.range i).foldl (fun l j => bubblePass l (files.length - j - 1)) files) p s ∧
      p.length = files.length - i := by
  induction i with
  | zero => exact ⟨files, [], ⟨(List.append_nil _).symm, List.sorted_nil, by simp⟩, rfl⟩
  | succ i ih =>
    obtain ⟨p, s, hinv, hp⟩ := ih (by omega)
    obtain ⟨q, m, hinv', hq⟩ := bubblePass_inv (k := files.length - i - 1) hinv (by omega)
    refine ⟨q, m :: s, ?_, by omega⟩
    rwa [List.range_succ, List.foldl_append, List.foldl_cons, List.foldl_nil]

/-- `evictOldest`'s sort returns the entries it is given, each once, by non-decreasing modification
time. -/
theorem bubbleSort_sorted (files : List FileInfo) :
    (bubbleSort files).Perm files ∧ (bubbleSort files).Sorted (fun a b => a.modTime ≤ b.modTime) := by
  refine ⟨bubbleSort_perm files, ?_⟩
  obtain ⟨p, s, ⟨heq, hs, hps⟩, hp⟩ := bubbleSort_inv files _ le_rfl
  rw [bubbleSort, heq]
  -- what is left unsorted after the last pass is at most one entry
  have hsorted : p.Sorted (fun a b => a.modTime ≤ b.modTime) := by
    rcases p with _ | ⟨a, _ | ⟨b, p⟩⟩
    · exact List.sorted_nil
    · exact List.sorted_singleton a
    · simp only [List.length_cons] at hp; omega
  exact List.pairwise_append.mpr ⟨hsorted, hs, hps⟩

/-! ## How much is evicted -/

/-- When `Set` finds that content of `n` bytes does not fit, its eviction step removes the shortest
prefix of the entries, oldest first, whose sizes reach `n`, or all of them. -/
theorem makeRoom_evicts_shortest (c : FilesystemCache) (n : Int) (hover : c.size + n > c.maxSize) :
    ∃ pre, pre <+: bubbleSort c.dir.walkBins ∧ c.makeRoom n = pre.foldl FilesystemCache.removeEntry c ∧
      (n ≤ (pre.map (·.size)).sum ∨ pre = bubbleSort c.dir.walkBins) ∧
      ∀ pre', pre' <+: bubbleSort c.dir.walkBins → pre'.length < pre.length →
        (pre'.map (·.size)).sum < n := by
  obtain ⟨pre, hpre, heq, hdone, hmin⟩ := evictLoop_shortest n (bubbleSort c.dir.walkBins) 0 c
  refine ⟨pre, hpre, by rw [makeRoom, if_pos hover]; exact heq, by simpa using hdone, ?_⟩
  intro pre' h₁ h₂
  simpa using hmin pre' h₁ h₂

/-- The cache after `Set("a", "a")` at time 0 and `Set("b", "b")` at time 1, from an empty directory
with a limit of three bytes. -/
def cacheAB : FilesystemCache :=
  (filesystemCache id).run (newFilesystemCache ⟨3, 0⟩ Dir.empty)
    [⟨none, 0, .set "a" ⟨"", "", [0x61], none, 0⟩ 0⟩, ⟨none, 1, .set "b" ⟨"", "", [0x62], none, 0⟩ 0⟩]

/-- `Set("c", "cc")` on `cacheAB` overflows the limit, and removing the older entry alone would bring
the bytes to the limit; the eviction step still removes both entries, and `c` is left alone. -/
theorem set_evicts_past_fit :
    cacheAB.size + 2 > cacheAB.maxSize ∧ cacheAB.size - 1 + 2 ≤ cacheAB.maxSize ∧
      (∃ pre, pre <+: bubbleSort cacheAB.dir.walkBins ∧
        cacheAB.makeRoom 2 = pre.foldl FilesystemCache.removeEntry cacheAB ∧
        (2 ≤ (pre.map (·.size)).sum ∨ pre = bubbleSort cacheAB.dir.walkBins) ∧
        ∀ pre', pre' <+: bubbleSort cacheAB.dir.walkBins → pre'.length < pre.length →
          (pre'.map (·.size)).sum < 2) ∧
      (bubbleSort cacheAB.dir.walkBins).map (·.path) = ["a/a", "b/b"] ∧
      ((filesystemCache id).set cacheAB none 2 "c" ⟨"", "", [0x63, 0x63], none, 0⟩ 0).1.dir.walkBins.map
        (·.path) = ["c/c"] :=
  ⟨by decide, by decide, makeRoom_evicts_shortest cacheAB 2 (by decide), by decide, by decide⟩

end VerusGateway.Cache.FilesystemCache

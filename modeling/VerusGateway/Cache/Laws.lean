import VerusGateway.Cache.Filesystem.Fidelity
import VerusGateway.Cache.Redis

/-!
# The cache laws, for both realisations

Read-your-writes at the end of any run from an empty cache: a hit returns the content of the most
recent `Set` on its key that was not followed by a `Delete` of the key or a `Clear`; Redis returns
that `Set`'s metadata as it was, absent included, the file system whenever the `Set` passed some
(`hit_returns_latest_set`). A `Set` without metadata writes no `.meta` file, so the file system then
pairs its content with the `.meta` file an earlier `Set` on the key left, every write succeeding
(`hit_pairs_stale_meta`).

Expiry: the file system expires an entry on its configured `ttl` from the `Set`, Redis on the `ttl`
the `Set` passed, in server milliseconds (`expiry_of_run`); a `Set` with a shorter `ttl` than the
configured one stays readable on the file system after its own `ttl` (`get_hits_after_set_ttl`).
-/

namespace VerusGateway.Cache

open FilesystemCache RedisCache

/-- `Set` on `k` of `ab` with metadata `m` at time 0, then of `xyz` without metadata at time 1. -/
def overwriteWithoutMeta (m : FileMetadata) : List Call :=
  [⟨none, 0, .set "k" ⟨"", "", [0x61, 0x62], some m, 0⟩ 0⟩,
    ⟨none, 1, .set "k" ⟨"", "", [0x78, 0x79, 0x7A], none, 0⟩ 0⟩]

/-- After `overwriteWithoutMeta m` the store holds the second `Set`, and Redis returns its content
without metadata. On the file system both `Set`s succeed, and the hit pairs the second `Set`'s content
with `m`, the `.meta` file of the first. -/
theorem hit_pairs_stale_meta (sha256Hex : String → String) (m : FileMetadata) :
    latest (overwriteWithoutMeta m) "k" = some ⟨⟨"", "", [0x78, 0x79, 0x7A], none, 0⟩, 1, 0⟩ ∧
    (∃ c₁ c₂, (filesystemCache sha256Hex).set (newFilesystemCache ⟨0, 0⟩ Dir.empty) none 0 "k"
        ⟨"", "", [0x61, 0x62], some m, 0⟩ 0 = (c₁, none) ∧
      (filesystemCache sha256Hex).set c₁ none 1 "k" ⟨"", "", [0x78, 0x79, 0x7A], none, 0⟩ 0 = (c₂, none) ∧
      ((filesystemCache sha256Hex).get c₂ none 2 "k").2 = .ok ⟨"", "", [0x78, 0x79, 0x7A], some m, 2⟩) ∧
    (redisCache.get (redisCache.run (newRedisCache ⟨0⟩) (overwriteWithoutMeta m)) none 2 "k").2 =
      .ok ⟨"", "", [0x78, 0x79, 0x7A], none, 1⟩ := by
  refine ⟨by simp [overwriteWithoutMeta, latest, Store.apply], ⟨_, _, rfl, rfl, ?_⟩, rfl⟩
  simp [filesystemCache, FilesystemCache.get, FilesystemCache.set, makeRoom, newFilesystemCache,
    calculateSize, Dir.writeMetadata, Dir.writeMeta, readMeta, hour, second]

end VerusGateway.Cache

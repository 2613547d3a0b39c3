import VerusGateway.Cache.Contract
import Mathlib.Data.List.AList
import Mathlib.Algebra.BigOperators.Group.List
import Mathlib.Tactic.Ring

/-!
# The file-system cache

`FilesystemCache` (`internal/cache`, the file with `evictOldest`). Entries live under `baseDir` as a
`.bin` file with the content and a `.meta` file with the JSON of the metadata, both named by the hex
SHA-256 of the key in a subdirectory of its first two characters (`getPaths`). The counters `size`
and `items` are kept by hand: `Set` adds, `Delete`, eviction and the sweeper subtract, `Clear` resets,
and the constructor counts the `.bin` files it finds (`calculateSize`).

The directory is modelled by path stem (the path without `.bin` or `.meta`): an association list of
the `.bin` files, so that sums and counts over it are defined, and a function for the `.meta` files.
A `.meta` file holds the JSON of a metadata record or, after a write cut short, bytes that do not
decode. `filepath.Walk` lists the `.bin` files in the list's order; the order only breaks ties among
equal modification times in `evictOldest`'s stable sort. SHA-256 is the parameter `sha256Hex`.
I/O is assumed to succeed, except in `set`, which takes the write that fails (`SetFault`), if any.
-/

namespace VerusGateway.Cache

/-- A `.bin` file: the content and its modification time. -/
structure BinFile where
  content : Bytes
  modTime : Int

/-- A `.meta` file: the JSON of a metadata record, or bytes that do not decode. -/
inductive MetaFile where
  | json (m : FileMetadata)
  | garbage

/-- What `filepath.Walk` reports for a `.bin` file: path stem, size, modification time. -/
structure FileInfo where
  path : String
  size : Int
  modTime : Int

/-- The tree under `baseDir`, by path stem. -/
structure Dir where
  bins : AList fun _ : String => BinFile
  metas : String → Option MetaFile

namespace Dir

/-- An empty directory, as `Clear` leaves it. -/
def empty : Dir := ⟨∅, fun _ => none⟩

/-- `os.WriteFile` of a `.bin` file. -/
def writeBin (d : Dir) (p : String) (b : BinFile) : Dir := { d with bins := d.bins.insert p b }

/-- `os.WriteFile` of a `.meta` file. -/
def writeMeta (d : Dir) (p : String) (m : MetaFile) : Dir :=
  { d with metas := Function.update d.metas p (some m) }

/-- The metadata write of `Set`: nothing without metadata, and undecodable bytes when it is cut short. -/
def writeMetadata (d : Dir) (p : String) (metadata : Option FileMetadata) (cutShort : Bool) : Dir :=
  match metadata with
  | none => d
  | some m => d.writeMeta p (if cutShort then .garbage else .json m)

/-- `os.Remove` of the `.bin` file and then of the `.meta` file of a stem. -/
def remove (d : Dir) (p : String) : Dir := ⟨d.bins.erase p, Function.update d.metas p none⟩

/-- The `.bin` files in walk order. -/
def walkBins (d : Dir) : List FileInfo :=
  d.bins.entries.map fun e => ⟨e.1, e.2.content.length, e.2.modTime⟩

/-- The total byte length of the `.bin` files. -/
def binBytes (d : Dir) : Int := ((walkBins d).map (·.size)).sum

/-- The number of `.bin` files. -/
def binCount (d : Dir) : Int := d.bins.entries.length

end Dir

namespace Dir

/-! ### Directory arithmetic -/

/-- The size of the `.bin` file at a stem, zero when there is none. -/
def sizeAt (d : Dir) (p : String) : Int :=
  ((d.bins.lookup p).map fun b => (b.content.length : Int)).getD 0

/-- One when a stem has a `.bin` file, zero otherwise. -/
def countAt (d : Dir) (p : String) : Int := ((d.bins.lookup p).map fun _ => (1 : Int)).getD 0

theorem sum_kerase (p : String) (l : List (Sigma fun _ : String => BinFile)) (g : BinFile → Int) :
    (l.map fun e => g e.2).sum =
      ((l.kerase p).map fun e => g e.2).sum + ((l.dlookup p).map g).getD 0 := by
  by_cases hp : p ∈ l.keys
  · obtain ⟨b, l₁, l₂, hl₁, rfl, hk⟩ := List.exists_of_kerase hp
    rw [hk, List.dlookup_append, List.dlookup_eq_none.mpr hl₁, List.dlookup_cons_eq]
    simp only [List.map_append, List.map_cons, List.sum_append, List.sum_cons, Option.none_or,
      Option.map_some', Option.getD_some]
    omega
  · rw [List.kerase_of_not_mem_keys hp, List.dlookup_eq_none.mpr hp]
    simp

theorem binBytes_eq (d : Dir) :
    d.binBytes = (d.bins.entries.map fun e => (e.2.content.length : Int)).sum := by
  simp [binBytes, walkBins, Function.comp_def]

theorem binCount_eq (d : Dir) : d.binCount = (d.bins.entries.map fun _ => (1 : Int)).sum := by
  simp [binCount]

@[simp] theorem lookup_remove (d : Dir) (p q : String) :
    (d.remove p).bins.lookup q = if q = p then none else d.bins.lookup q := by
  split_ifs with h
  · subst h; exact AList.lookup_erase _ _
  · exact AList.lookup_erase_ne h

@[simp] theorem lookup_writeBin (d : Dir) (p q : String) (b : BinFile) :
    (d.writeBin p b).bins.lookup q = if q = p then some b else d.bins.lookup q := by
  split_ifs with h
  · subst h; exact AList.lookup_insert _
  · exact AList.lookup_insert_ne h

@[simp] theorem writeMetadata_bins (d : Dir) (p : String) (m : Option FileMetadata) (b : Bool) :
    (d.writeMetadata p m b).bins = d.bins := by
  cases m <;> rfl

@[simp] theorem metas_remove (d : Dir) (p q : String) :
    (d.remove p).metas q = if q = p then none else d.metas q := Function.update_apply _ _ _ _

@[simp] theorem metas_writeBin (d : Dir) (p : String) (b : BinFile) :
    (d.writeBin p b).metas = d.metas := rfl

theorem entries_remove (d : Dir) (p : String) : (d.remove p).bins.entries = d.bins.entries.kerase p := rfl

theorem binBytes_remove (d : Dir) (p : String) : (d.remove p).binBytes = d.binBytes - d.sizeAt p := by
  rw [binBytes_eq, binBytes_eq, sum_kerase p d.bins.entries fun b => (b.content.length : Int)]
  simp [entries_remove, sizeAt, AList.lookup]

theorem binCount_remove (d : Dir) (p : String) : (d.remove p).binCount = d.binCount - d.countAt p := by
  rw [binCount_eq, binCount_eq, sum_kerase p d.bins.entries fun _ => (1 : Int)]
  simp [entries_remove, countAt, AList.lookup]

theorem binBytes_writeBin (d : Dir) (p : String) (b : BinFile) :
    (d.writeBin p b).binBytes = d.binBytes - d.sizeAt p + b.content.length := by
  rw [binBytes_eq, binBytes_eq, sum_kerase p d.bins.entries fun b => (b.content.length : Int)]
  simp [writeBin, AList.insert_entries, sizeAt, AList.lookup]
  omega

theorem binCount_writeBin (d : Dir) (p : String) (b : BinFile) :
    (d.writeBin p b).binCount = d.binCount - d.countAt p + 1 := by
  rw [binCount_eq, binCount_eq, sum_kerase p d.bins.entries fun _ => (1 : Int)]
  simp [writeBin, AList.insert_entries, countAt, AList.lookup]
  omega

theorem sizeAt_nonneg (d : Dir) (p : String) : 0 ≤ d.sizeAt p := by
  unfold sizeAt; cases d.bins.lookup p <;> simp [Int.natCast_nonneg]

theorem countAt_nonneg (d : Dir) (p : String) : 0 ≤ d.countAt p := by
  unfold countAt; cases d.bins.lookup p <;> simp

@[simp] theorem binBytes_empty : empty.binBytes = 0 := rfl

@[simp] theorem binCount_empty : empty.binCount = 0 := rfl

end Dir

/-- `FilesystemCacheConfig`; `BaseDir` and `CleanupInterval` are left out (see `Dir` and `cleanup`). -/
structure FilesystemCacheConfig where
  maxSize : Int
  ttl : Int

/-- `FilesystemCache`: its limits, its counters and the directory it manages. -/
structure FilesystemCache where
  maxSize : Int
  ttl : Int
  hits : Nat
  misses : Nat
  size : Int
  items : Int
  dir : Dir

/-- Where a write of `Set` fails, if one does. -/
inductive SetFault where
  | none
  /-- `os.MkdirAll` of the subdirectory fails. -/
  | mkdir (e : GoError)
  /-- `os.WriteFile` of the content fails after truncating the file and writing `n` bytes. -/
  | content (n : Nat) (e : GoError)
  /-- The metadata write fails part-way, leaving bytes that do not decode. -/
  | meta

namespace FilesystemCache

variable (sha256Hex : String → String)

/-- `getPaths`: the stem `hh/hash` of `hash.bin` and `hash.meta`. -/
def getPaths (key : String) : String :=
  String.mk ((sha256Hex key).data.take 2) ++ "/" ++ sha256Hex key

/-- `calculateSize`: the counters from a walk of the directory. -/
def calculateSize (c : FilesystemCache) : FilesystemCache :=
  { c with size := c.dir.binBytes, items := c.dir.binCount }

/-- `NewFilesystemCache` over the directory found at `baseDir`: defaults, then `calculateSize`. -/
def newFilesystemCache (cfg : FilesystemCacheConfig) (found : Dir) : FilesystemCache :=
  calculateSize ⟨if cfg.maxSize = 0 then 1024 * 1024 * 1024 else cfg.maxSize,
    if cfg.ttl = 0 then 24 * hour else cfg.ttl, 0, 0, 0, 0, found⟩

/-- Reading the `.meta` file into a zero `FileMetadata`, errors ignored. -/
def readMeta : Option MetaFile → FileMetadata
  | some (.json m) => m
  | _ => FileMetadata.zero

/-- `(*FilesystemCache).Get`. An expired entry is a miss and is deleted, counters untouched. -/
def get (c : FilesystemCache) (ctx : Option GoError) (now : Int) (key : String) :
    FilesystemCache × Except GoError File :=
  match ctx with
  | some e => (c, .error e)
  | none =>
    match c.dir.bins.lookup (getPaths sha256Hex key) with
    | none => ({ c with misses := c.misses + 1 }, .error errCacheMiss)
    | some b =>
      if now - b.modTime > c.ttl then
        ({ c with misses := c.misses + 1, dir := c.dir.remove (getPaths sha256Hex key) },
          .error errCacheMiss)
      else
        ({ c with hits := c.hits + 1 },
          .ok ⟨"", "", b.content, some (readMeta (c.dir.metas (getPaths sha256Hex key))), now⟩)

theorem get_fst (c : FilesystemCache) (ctx : Option GoError) (now : Int) (key : String) :
    ∃ hits misses, (get sha256Hex c ctx now key).1 = { c with hits := hits, misses := misses } ∨
      (get sha256Hex c ctx now key).1 =
        { c with misses := misses, dir := c.dir.remove (getPaths sha256Hex key) } := by
  unfold get
  split
  · exact ⟨_, _, .inl rfl⟩
  · split
    · exact ⟨_, _, .inl rfl⟩
    · split_ifs
      · exact ⟨c.hits, _, .inr rfl⟩
      · exact ⟨_, _, .inl rfl⟩

/-- One step of the eviction loop or the sweeper: both files of `f` removed, counters decreased. -/
def removeEntry (c : FilesystemCache) (f : FileInfo) : FilesystemCache :=
  { c with dir := c.dir.remove f.path, size := c.size - f.size, items := c.items - 1 }

/-- The inner loop of the sort, `for j := 0; j < k; j++`, swapping neighbours whose first is newer. -/
def bubblePass : List FileInfo → Nat → List FileInfo
  | a :: b :: rest, k + 1 =>
    if a.modTime > b.modTime then b :: bubblePass (a :: rest) k else a :: bubblePass (b :: rest) k
  | l, _ => l

/-- The sort of `evictOldest`: `for i := 0; i < len(files)-1; i++` over `bubblePass`. -/
def bubbleSort (files : List FileInfo) : List FileInfo :=
  (List.range (files.length - 1)).foldl (fun l i => bubblePass l (files.length - i - 1)) files

/-- The eviction loop: remove entries in order until `freedSize` reaches `neededSize`. -/
def evictLoop (neededSize : Int) : List FileInfo → Int → FilesystemCache → FilesystemCache
  | [], _, c => c
  | f :: fs, freedSize, c =>
    if freedSize ≥ neededSize then c else evictLoop neededSize fs (freedSize + f.size) (c.removeEntry f)

/-- `(*FilesystemCache).evictOldest`; its error is always `nil`. -/
def evictOldest (c : FilesystemCache) (neededSize : Int) : FilesystemCache :=
  evictLoop neededSize (bubbleSort c.dir.walkBins) 0 c

/-- The eviction step of `Set`: `evictOldest` when the counter says the new content does not fit. -/
def makeRoom (c : FilesystemCache) (fileSize : Int) : FilesystemCache :=
  if c.size + fileSize > c.maxSize then c.evictOldest fileSize else c

/-- `(*FilesystemCache).Set` with the failing write, if any. The `ttl` argument is not read. -/
def set (fault : SetFault) (c : FilesystemCache) (ctx : Option GoError) (now : Int) (key : String)
    (file : File) (_ttl : Int) : FilesystemCache × Option GoError :=
  match ctx with
  | some e => (c, some e)
  | none =>
    let fileSize : Int := file.content.length
    let c := c.makeRoom fileSize
    let p := getPaths sha256Hex key
    match fault with
    | .mkdir e => (c, some (.wrap "failed to create cache directory" e))
    | .content n e =>
      ({ c with dir := c.dir.writeBin p ⟨file.content.take n, now⟩ },
        some (.wrap "failed to write cache file" e))
    | fault =>
      let d := (c.dir.writeBin p ⟨file.content, now⟩).writeMetadata p file.metadata (fault matches .meta)
      ({ c with dir := d, size := c.size + fileSize, items := c.items + 1 }, none)

/-- `(*FilesystemCache).Delete`: the counters drop by the `.bin` file found, if any. -/
def delete (c : FilesystemCache) (ctx : Option GoError) (key : String) :
    FilesystemCache × Option GoError :=
  match ctx with
  | some e => (c, some e)
  | none =>
    let p := getPaths sha256Hex key
    let c := match c.dir.bins.lookup p with
      | some b => { c with size := c.size - b.content.length, items := c.items - 1 }
      | none => c
    ({ c with dir := c.dir.remove p }, none)

/-- `(*FilesystemCache).Clear`. -/
def clear (c : FilesystemCache) (ctx : Option GoError) : FilesystemCache × Option GoError :=
  match ctx with
  | some e => (c, some e)
  | none => ({ c with dir := Dir.empty, size := 0, items := 0 }, none)

/-- `(*FilesystemCache).cleanup`, one tick of the sweeper: every expired entry removed. -/
def cleanup (c : FilesystemCache) (now : Int) : FilesystemCache :=
  c.dir.walkBins.foldl (fun c f => if now - f.modTime > c.ttl then c.removeEntry f else c) c

end FilesystemCache

/-- The file-system realisation of the contract, with every write succeeding. -/
def filesystemCache (sha256Hex : String → String) : Cache FilesystemCache where
  get := FilesystemCache.get sha256Hex
  set := FilesystemCache.set sha256Hex .none
  delete := FilesystemCache.delete sha256Hex
  clear := FilesystemCache.clear
  tick := FilesystemCache.cleanup

end VerusGateway.Cache

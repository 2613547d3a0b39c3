import VerusGateway.Service.Caching

/-!
# The file route: `GET` and `HEAD` on `/c/{chain}/file/{txid}`

`FileHandler` (`internal/http/handler/file_handler.go`). `GetFile` reads its path segment as a txid
when it is 64 hex digits, and otherwise as a file name with the txid in `?txid=`. It asks the file
service for the file, writes the headers of `setFileHeaders`, status 200 and the content. `HeadFile`
always reads the segment as a txid and asks for the metadata only. It sets `Content-Type` when the type
is not empty, `Content-Length`, and `Content-Disposition` with the name's quotes left as they are.
Both handlers write a failure with `writeError`: a `*domain.Error` gives its status, code and message,
any other error a 500 `INTERNAL_ERROR`.

A handler's writes are a `Response`: the header map, the status given to `WriteHeader` and the body
given to `Write` (for `HEAD` the server drops the body). A file or metadata without its `Metadata`
record makes both handlers dereference `nil`; they are then `none`, the panic that `Recoverer` catches.

On a failure of the service the two handlers write the same response
(`headFile_eq_getFile_of_error`). On a success they do not (`headFile_headers`): `GetFile` always sets
`Cache-Control` and `ETag`, which `HeadFile` never sets. The two also differ in `Content-Type` when the
type is empty, and in `Content-Disposition` when the name has a quote.

The `ETag` is the txid of the file the service returns (`getFile_etag`). Behind either cache the second
`GET` of a route is a hit, a hit carries no txid, and so `GetFile` writes the `ETag` of an empty txid
where the uncached service gives the route's own (`getFile_hit_drops_ids`).
-/

namespace VerusGateway.Http

open Service

/-- What a handler gives `Write`: the file's content, or the JSON of an error response (`details`
empty when the error has none) or of the metadata. -/
inductive Body where
  | content (b : Bytes)
  | error (code message requestID : String) (details : List (String × String))
  | meta (txid chain : String) (m : FileMetadata)

/-- What a handler leaves in its `http.ResponseWriter`: the header map, the status given to
`WriteHeader`, and the body given to `Write`. -/
structure Response where
  header : String → Option String
  status : Option Nat
  body : Option Body

namespace Response

/-- A fresh `http.ResponseWriter`. -/
def empty : Response := ⟨fun _ => none, none, none⟩

/-- `w.Header().Set(key, value)`. -/
def setHeader (w : Response) (key value : String) : Response :=
  { w with header := fun k => if k = key then some value else w.header k }

/-- `w.WriteHeader(statusCode)`: only the first call sets the status. -/
def writeHeader (w : Response) (statusCode : Nat) : Response :=
  { w with status := some (w.status.getD statusCode) }

/-- `w.Write(b)`, with the implicit `WriteHeader(200)` when no status was written. -/
def write (w : Response) (b : Body) : Response :=
  { w with status := some (w.status.getD 200), body := some b }

variable (w : Response) (key value k : String) (c : Nat) (b : Body)

@[simp] theorem empty_header : empty.header k = none := rfl
@[simp] theorem empty_status : empty.status = none := rfl
@[simp] theorem empty_body : empty.body = none := rfl
@[simp] theorem setHeader_header :
    (w.setHeader key value).header k = if k = key then some value else w.header k := rfl
@[simp] theorem setHeader_status : (w.setHeader key value).status = w.status := rfl
@[simp] theorem setHeader_body : (w.setHeader key value).body = w.body := rfl
@[simp] theorem writeHeader_header : (w.writeHeader c).header = w.header := rfl
@[simp] theorem writeHeader_status : (w.writeHeader c).status = some (w.status.getD c) := rfl
@[simp] theorem writeHeader_body : (w.writeHeader c).body = w.body := rfl
@[simp] theorem write_header : (w.write b).header = w.header := rfl
@[simp] theorem write_status : (w.write b).status = some (w.status.getD 200) := rfl
@[simp] theorem write_body : (w.write b).body = some b := rfl

end Response

/-- `FileServiceInterface`: what `GetFile` and `GetMetadata` answer to each request. -/
structure FileServiceInterface where
  getFile : FileRequest → Except GoError File
  getMetadata : FileRequest → Except GoError (Option FileMetadata)

/-- A service whose `GetMetadata` is the metadata of its `GetFile`, as `*service.FileService` has it. -/
def FileServiceInterface.Coherent (svc : FileServiceInterface) : Prop :=
  ∀ r, svc.getMetadata r = (svc.getFile r).map (·.metadata)

/-- The `*service.FileService` that `NewFileHandler` is given, at a cache state, context and time. -/
def FileServiceInterface.ofService {σ : Type} (s : FileService σ) (gz : Storage.GzipReader)
    (sniff : Bytes → String) (st : σ) (ctx : Option GoError) (now : Int) : FileServiceInterface :=
  ⟨fun r => (s.getFile gz sniff st ctx now r).2, fun r => (s.getMetadata gz sniff st ctx now r).2⟩

theorem FileServiceInterface.ofService_coherent {σ : Type} (s : FileService σ) (gz : Storage.GzipReader)
    (sniff : Bytes → String) (st : σ) (ctx : Option GoError) (now : Int) :
    (ofService s gz sniff st ctx now).Coherent := fun _ => rfl

/-- A request on the file route: the URL parameters `chain` and `txid` (the path segment), and the
query. -/
structure Request where
  chain : String
  segment : String
  query : List (String × String)

/-- `r.URL.Query().Get(key)`: the first value of `key`, or the empty string. -/
def queryGet (query : List (String × String)) (key : String) : String := (query.lookup key).getD ""

/-- `isHexString`. -/
def isHexString (s : String) : Bool := s.data.all isHexChar

/-- The request for the segment read as a txid, as `HeadFile` and `GetMeta` build it, and `GetFile` for
64 hex digits. -/
def txidRequest (r : Request) : FileRequest := ⟨r.segment, queryGet r.query "evk", r.chain, "", true⟩

/-- The request `GetFile` builds. -/
def getFileRequest (r : Request) : FileRequest :=
  if r.segment.utf8ByteSize = 64 ∧ isHexString r.segment = true then txidRequest r
  else ⟨queryGet r.query "txid", queryGet r.query "evk", r.chain, r.segment, true⟩

/-- The text of `fmt.Sprintf` with `inline; filename="%s"`. -/
def inlineFilename (name : String) : String := "inline; filename=\"" ++ name ++ "\""

/-- `strings.ReplaceAll` of each quote of the name by a backslash and a quote. -/
def escapeQuotes (name : String) : String :=
  String.mk (name.data.flatMap fun ch => if ch = '"' then ['\\', '"'] else [ch])

/-- The `Cache-Control` that `setFileHeaders` sets. -/
def immutable : String := "public, max-age=31536000, immutable"

/-- `setFileHeaders`; it reads `file.Metadata`, so a file without one makes it panic. -/
def setFileHeaders (w : Response) (file : File) : Option Response := do
  let m ← file.metadata
  let w := w.setHeader "Content-Type" (if m.contentType ≠ "" then m.contentType else "application/octet-stream")
  let w := if m.filename ≠ "" then w.setHeader "Content-Disposition" (inlineFilename (escapeQuotes m.filename))
    else w
  let w := if m.size > 0 then w.setHeader "Content-Length" (toString m.size) else w
  return (w.setHeader "Cache-Control" immutable).setHeader "ETag" ("\"" ++ file.txid ++ "\"")

/-- `writeJSON`: `Content-Type: application/json`, the status, and the JSON of `data`. -/
def writeJSON (w : Response) (statusCode : Nat) (data : Body) : Response :=
  ((w.setHeader "Content-Type" "application/json").writeHeader statusCode).write data

/-- `writeError`: a `*domain.Error` itself, not one wrapped in another error, gives its status, code,
message and details; any other error is a 500 `INTERNAL_ERROR`. -/
def writeError (w : Response) (requestID : String) : GoError → Response
  | .domain code message httpStatus _ details => writeJSON w httpStatus (.error code message requestID details)
  | _ => writeJSON w 500 (.error "INTERNAL_ERROR" "An internal error occurred" requestID [])

/-- `(*FileHandler).GetFile`, with the request id that the middleware put in the context. -/
def getFile (svc : FileServiceInterface) (requestID : String) (r : Request) : Option Response :=
  let req := getFileRequest r
  match svc.getFile req with
  | .error e => some (writeError Response.empty requestID e)
  | .ok file => do
    let m ← file.metadata
    let file := if req.filename ≠ "" ∧ m.filename = "" then
      { file with metadata := some { m with filename := req.filename } } else file
    let w ← setFileHeaders Response.empty file
    return (w.writeHeader 200).write (.content file.content)

/-- `(*FileHandler).HeadFile`. -/
def headFile (svc : FileServiceInterface) (requestID : String) (r : Request) : Option Response :=
  match svc.getMetadata (txidRequest r) with
  | .error e => some (writeError Response.empty requestID e)
  | .ok none => none
  | .ok (some m) =>
    let w := Response.empty
    let w := if m.contentType ≠ "" then w.setHeader "Content-Type" m.contentType else w
    let w := if m.size > 0 then w.setHeader "Content-Length" (toString m.size) else w
    let w := if m.filename ≠ "" then w.setHeader "Content-Disposition" (inlineFilename m.filename) else w
    some (w.writeHeader 200)

/-- `(*FileHandler).GetMeta`. -/
def getMeta (svc : FileServiceInterface) (requestID : String) (r : Request) : Option Response :=
  match svc.getMetadata (txidRequest r) with
  | .error e => some (writeError Response.empty requestID e)
  | .ok none => none
  | .ok (some m) => some (writeJSON Response.empty 200 (.meta r.segment r.chain m))

/-! ## `HEAD` against `GET` -/

section Handlers

variable (svc : FileServiceInterface) (requestID : String) (r : Request)

theorem getFileRequest_of_txid (h : r.segment.utf8ByteSize = 64 ∧ isHexString r.segment = true) :
    getFileRequest r = txidRequest r :=
  if_pos h

/-- On a failure of the service, `HeadFile` writes what `GetFile` writes. -/
theorem headFile_eq_getFile_of_error (hsvc : svc.Coherent)
    (htxid : r.segment.utf8ByteSize = 64 ∧ isHexString r.segment = true) {e : GoError}
    (he : svc.getFile (txidRequest r) = .error e) :
    headFile svc requestID r = getFile svc requestID r := by
  simp only [headFile, getFile, hsvc (txidRequest r), he, getFileRequest_of_txid r htxid]
  rfl

/-- The status and the headers `Content-Type`, `Content-Disposition`, `Content-Length`,
`Cache-Control` and `ETag` of a response. -/
def Response.fileHeaders (w : Response) : Option Nat × List (Option String) :=
  (w.status, ["Content-Type", "Content-Disposition", "Content-Length", "Cache-Control", "ETag"].map w.header)

theorem getFile_fileHeaders (htxid : r.segment.utf8ByteSize = 64 ∧ isHexString r.segment = true) (f : File)
    (m : FileMetadata) (hf : svc.getFile (txidRequest r) = .ok f) (hm : f.metadata = some m) :
    (getFile svc requestID r).map Response.fileHeaders = some (some 200,
      [some (if m.contentType = "" then "application/octet-stream" else m.contentType),
       if m.filename = "" then none else some (inlineFilename (escapeQuotes m.filename)),
       if m.size > 0 then some (toString m.size) else none,
       some immutable, some ("\"" ++ f.txid ++ "\"")]) := by
  simp only [getFile, getFileRequest_of_txid r htxid, hf]
  by_cases h1 : m.contentType = "" <;> by_cases h2 : m.filename = "" <;> by_cases h3 : m.size > 0 <;>
    simp [hm, txidRequest, setFileHeaders, Response.fileHeaders, h1, h2, h3]

/-- The `ETag` header of a handler's response. -/
def etag (w : Option Response) : Option String := w.bind (·.header "ETag")

/-- For a segment of 64 hex digits and a file found with metadata, the `ETag` is the file's txid. -/
theorem getFile_etag (htxid : r.segment.utf8ByteSize = 64 ∧ isHexString r.segment = true) (f : File)
    (m : FileMetadata) (hf : svc.getFile (txidRequest r) = .ok f) (hm : f.metadata = some m) :
    etag (getFile svc requestID r) = some ("\"" ++ f.txid ++ "\"") := by
  simp only [etag, getFile, getFileRequest_of_txid r htxid, hf]
  simp [hm, txidRequest, setFileHeaders]

theorem headFile_fileHeaders (hsvc : svc.Coherent) (f : File) (m : FileMetadata)
    (hf : svc.getFile (txidRequest r) = .ok f) (hm : f.metadata = some m) :
    (headFile svc requestID r).map (fun w => (w.fileHeaders, w.body)) = some ((some 200,
      [if m.contentType = "" then none else some m.contentType,
       if m.filename = "" then none else some (inlineFilename m.filename),
       if m.size > 0 then some (toString m.size) else none,
       none, none]), none) := by
  simp only [headFile, hsvc (txidRequest r), hf]
  by_cases h1 : m.contentType = "" <;> by_cases h2 : m.filename = "" <;> by_cases h3 : m.size > 0 <;>
    simp [Except.map, hm, Response.fileHeaders, h1, h2, h3]

/-- For a segment of 64 hex digits and a file found with metadata `m`, both handlers write status 200
and the same `Content-Length`, and `HeadFile` no body. Only `GetFile` sets `Cache-Control` and `ETag`;
where the type is empty `GetFile` sets `application/octet-stream` and `HeadFile` no `Content-Type`; only
`GetFile` escapes the quotes of the file name. So the two never write the same headers. -/
theorem headFile_headers (hsvc : svc.Coherent)
    (htxid : r.segment.utf8ByteSize = 64 ∧ isHexString r.segment = true) (f : File) (m : FileMetadata)
    (hf : svc.getFile (txidRequest r) = .ok f) (hm : f.metadata = some m) :
    (getFile svc requestID r).map Response.fileHeaders = some (some 200,
      [some (if m.contentType = "" then "application/octet-stream" else m.contentType),
       if m.filename = "" then none else some (inlineFilename (escapeQuotes m.filename)),
       if m.size > 0 then some (toString m.size) else none,
       some immutable, some ("\"" ++ f.txid ++ "\"")]) ∧
    (headFile svc requestID r).map (fun w => (w.fileHeaders, w.body)) = some ((some 200,
      [if m.contentType = "" then none else some m.contentType,
       if m.filename = "" then none else some (inlineFilename m.filename),
       if m.size > 0 then some (toString m.size) else none,
       none, none]), none) ∧
    (headFile svc requestID r).map Response.fileHeaders ≠ (getFile svc requestID r).map Response.fileHeaders := by
  have hg := getFile_fileHeaders svc requestID r htxid f m hf hm
  have hh := headFile_fileHeaders svc requestID r hsvc f m hf hm
  refine ⟨hg, hh, fun heq => ?_⟩
  -- the two differ in `Cache-Control`, the fourth header
  have hh' : (headFile svc requestID r).map Response.fileHeaders = ((headFile svc requestID r).map
      (fun w => (w.fileHeaders, w.body))).map Prod.fst := by rw [Option.map_map]; rfl
  rw [hh', hh, hg] at heq
  simp at heq

/-- A one-byte file `a.txt` with no content type. -/
def fileA : File := ⟨zeroTxid, "vrsc", [0x41], some { FileMetadata.zero with filename := "a.txt", size := 1 }, 0⟩

/-- A service that finds `fileA` for every request. -/
def serviceA : FileServiceInterface := ⟨fun _ => .ok fileA, fun _ => .ok fileA.metadata⟩

/-- `GET` and `HEAD` of `/c/vrsc/file/` followed by `zeroTxid`, with no query. -/
def requestZero : Request := ⟨"vrsc", zeroTxid, []⟩

/-- On the file route for `zeroTxid`, with the file found, `HeadFile` and `GetFile` write different
headers. -/
theorem headFile_headers_zero_txid :
    requestZero.segment.utf8ByteSize = 64 ∧ isHexString requestZero.segment = true ∧
      (headFile serviceA "" requestZero).map Response.fileHeaders ≠
        (getFile serviceA "" requestZero).map Response.fileHeaders :=
  ⟨by decide, by decide,
    (headFile_headers serviceA "" requestZero (fun _ => rfl) ⟨by decide, by decide⟩ fileA _ rfl rfl).2.2⟩

end Handlers

/-! ## A cache hit on the file route -/

section Hit

open Storage Cache

/-- `GET /c/vrsc/file/` followed by `zeroTxid` and `?evk=` with `evkA`. -/
def routeA : Request := ⟨"vrsc", zeroTxid, [("evk", evkA)]⟩

/-- The service behind cache `c` from state `st₀` at time 1, after it served `routeA` at time 0. -/
def afterRouteA {σ : Type} (c : Cache σ) (st₀ : σ) (gz : GzipReader) (sniff : Bytes → String) :
    FileServiceInterface :=
  let s := newFileService managerA (some c)
  .ofService s gz sniff (s.run gz sniff st₀ [.getFile none 0 (txidRequest routeA)]) none 1

set_option maxRecDepth 4000 in
/-- The second `GET` of `routeA` behind either cache is a hit. Where the uncached service returns the
file of `zeroTxid` on `vrsc` and the handler its txid as the `ETag`, the hit has neither txid nor chain
id, and the handler writes the `ETag` of an empty txid. -/
theorem getFile_hit_drops_ids (sha256Hex : String → String) (gz : GzipReader) (sniff : Bytes → String) :
    (FileServiceInterface.ofService (uncached managerA) gz sniff () none 1).getFile (txidRequest routeA) =
        .ok ⟨zeroTxid, "vrsc", [0x41], some (detectType sniff [0x41] ""), 1⟩ ∧
      etag (getFile (.ofService (uncached managerA) gz sniff () none 1) "" routeA) =
        some ("\"" ++ zeroTxid ++ "\"") ∧
      (∃ m, (afterRouteA (filesystemCache sha256Hex) (FilesystemCache.newFilesystemCache ⟨0, 0⟩ Dir.empty) gz
        sniff).getFile (txidRequest routeA) = .ok ⟨"", "", [0x41], some m, 1⟩) ∧
      etag (getFile (afterRouteA (filesystemCache sha256Hex) (FilesystemCache.newFilesystemCache ⟨0, 0⟩ Dir.empty)
        gz sniff) "" routeA) = some "\"\"" ∧
      (afterRouteA redisCache (RedisCache.newRedisCache ⟨0⟩) gz sniff).getFile (txidRequest routeA) =
        .ok ⟨"", "", [0x41], some (detectType sniff [0x41] ""), 0⟩ ∧
      etag (getFile (afterRouteA redisCache (RedisCache.newRedisCache ⟨0⟩) gz sniff) "" routeA) = some "\"\"" := by
  have htxid : routeA.segment.utf8ByteSize = 64 ∧ isHexString routeA.segment = true := ⟨by decide, by decide⟩
  have hun : (FileServiceInterface.ofService (uncached managerA) gz sniff () none 1).getFile
      (txidRequest routeA) = .ok ⟨zeroTxid, "vrsc", [0x41], some (detectType sniff [0x41] ""), 1⟩ := rfl
  have hredis : (afterRouteA redisCache (RedisCache.newRedisCache ⟨0⟩) gz sniff).getFile
      (txidRequest routeA) = .ok ⟨"", "", [0x41], some (detectType sniff [0x41] ""), 0⟩ := rfl
  obtain ⟨m, hfs⟩ := getFile_after_fetch sha256Hex ⟨0, 0⟩ managerA gz sniff (requestA evkA "") (requestA evkA "")
    0 1     ⟨zeroTxid, "vrsc", [0x41], some (detectType sniff [0x41] ""), 0⟩ rfl rfl rfl rfl rfl rfl (by decide)
  exact ⟨hun, getFile_etag _ "" routeA htxid _ _ hun rfl, ⟨m, hfs⟩,
    getFile_etag _ "" routeA htxid ⟨"", "", [0x41], some m, 1⟩ m hfs rfl, hredis,
    getFile_etag _ "" routeA htxid _ _ hredis rfl⟩

end Hit

end VerusGateway.Http

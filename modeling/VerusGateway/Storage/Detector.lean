import VerusGateway.Domain.File
import VerusGateway.Storage.Decompressor

/-!
# The type detector

`internal/storage/detector.go`: `DetectType` fills a `FileMetadata` from the delivered bytes and the
requested filename. The MIME type comes from the standard library's `http.DetectContentType`, which the
model takes as a parameter `sniff`; when that answers `application/octet-stream` or plain UTF-8 text,
the detector's own signature table (`detectBySignature`) is tried first. The extension comes from the
filename when it has one, and from the MIME type otherwise.

`DetectType` never returns an error, so it is a total function here.
-/

namespace VerusGateway.Storage

/-- The bytes of an ASCII string literal (`[]byte("RIFF")`). -/
def ascii (s : String) : Bytes := s.data.map fun c => c.toNat.toUInt8

/-- The signature table of `detectBySignature`, in order. -/
def signatures : List (Bytes × String) :=
  [([0xFF, 0xD8, 0xFF], "image/jpeg"),
   ([0x89, 0x50, 0x4E, 0x47], "image/png"),
   (ascii "GIF87a", "image/gif"),
   (ascii "GIF89a", "image/gif"),
   (ascii "RIFF", "image/webp"),
   ([0x42, 0x4D], "image/bmp"),
   ([0x00, 0x00, 0x00, 0x18, 0x66, 0x74, 0x79, 0x70], "video/mp4"),
   ([0x1A, 0x45, 0xDF, 0xA3], "video/webm"),
   (ascii "ID3", "audio/mpeg"),
   ([0xFF, 0xFB], "audio/mpeg"),
   (ascii "OggS", "audio/ogg"),
   (ascii "RIFF", "audio/wav"),
   (ascii "%PDF", "application/pdf"),
   ([0x50, 0x4B, 0x03, 0x04], "application/zip"),
   ([0x1F, 0x8B], "application/x-gzip"),
   (ascii "Rar!", "application/x-rar-compressed"),
   ([0x37, 0x7A, 0xBC, 0xAF, 0x27, 0x1C], "application/x-7z-compressed")]

/-- `bytes.Contains(b, sub)`. -/
def containsBytes (b sub : Bytes) : Bool := decide (sub <:+: b)

/-- `(*Detector).detectBySignature`: the first entry whose magic starts the content, with the RIFF
subtypes looked up in bytes 8 to 12 whichever entry matched. -/
def detectBySignature (content : Bytes) : String :=
  if content.length < 16 then ""
  else
    match signatures.find? (fun sig => sig.1.isPrefixOf content) with
    | none => ""
    | some sig =>
      if (ascii "RIFF").isPrefixOf content && content.length > 12 then
        if containsBytes ((content.drop 8).take 4) (ascii "WAVE") then "audio/wav"
        else if containsBytes ((content.drop 8).take 4) (ascii "WEBP") then "image/webp"
        else if containsBytes ((content.drop 8).take 4) (ascii "AVI ") then "video/x-msvideo"
        else sig.2
      else sig.2

theorem containsBytes_of_length {b sub : Bytes} (h : b.length = sub.length) :
    containsBytes b sub = decide (b = sub) :=
  decide_eq_decide.mpr ⟨fun hi => (hi.eq_of_length h.symm).symm, fun he => he ▸ List.infix_refl b⟩

/-- On content of 16 bytes or more that starts with `RIFF`, the first table entry that matches is the
RIFF one for `image/webp`; the subtype in bytes 8 to 12 then picks WAV, WebP or AVI, and any other
subtype falls through to that entry's `image/webp`. -/
theorem detectBySignature_riff (c : Bytes) (hlen : 16 ≤ c.length) (hriff : (ascii "RIFF").isPrefixOf c = true) :
    detectBySignature c =
      if (c.drop 8).take 4 = ascii "WAVE" then "audio/wav"
      else if (c.drop 8).take 4 = ascii "WEBP" then "image/webp"
      else if (c.drop 8).take 4 = ascii "AVI " then "video/x-msvideo"
      else "image/webp" := by
  obtain ⟨rest, rfl⟩ := List.isPrefixOf_iff_prefix.mp hriff
  rw [show ascii "RIFF" = [0x52, 0x49, 0x46, 0x46] from rfl] at hlen ⊢
  -- `isPrefixOf [] rest` reduces only once `rest` is a cons; the length bound gives one
  obtain _ | ⟨b, rest⟩ := rest
  · simp at hlen
  have hfind : signatures.find? (fun sig => sig.1.isPrefixOf ([0x52, 0x49, 0x46, 0x46] ++ b :: rest)) =
      some (ascii "RIFF", "image/webp") := rfl
  have hpre : (ascii "RIFF").isPrefixOf ([0x52, 0x49, 0x46, 0x46] ++ b :: rest) = true := rfl
  have hsub (pat : Bytes) (hpat : pat.length = 4) :
      containsBytes ((([0x52, 0x49, 0x46, 0x46] ++ b :: rest).drop 8).take 4) pat =
        decide ((([0x52, 0x49, 0x46, 0x46] ++ b :: rest).drop 8).take 4 = pat) :=
    containsBytes_of_length (by simp only [List.length_take, List.length_drop] at hlen ⊢; omega)
  simp only [detectBySignature, if_neg (show ¬ ([0x52, 0x49, 0x46, 0x46] ++ b :: rest).length < 16 by omega),
    hfind, hpre, Bool.true_and, show ([0x52, 0x49, 0x46, 0x46] ++ b :: rest).length > 12 by omega,
    decide_True, hsub (ascii "WAVE") rfl, hsub (ascii "WEBP") rfl, hsub (ascii "AVI ") rfl,
    decide_eq_true_eq, if_true]

/-- A RIFF container of subtype `CDXA` is reported as WebP. -/
theorem detectBySignature_riff_cdxa :
    detectBySignature (ascii "RIFF" ++ [0, 0, 0, 0] ++ ascii "CDXA" ++ [0, 0, 0, 0]) = "image/webp" := by
  rw [detectBySignature_riff _ (by decide) (by decide)]
  decide

/-- `(*Detector).DetectMIME`; `sniff` is `http.DetectContentType`. -/
def detectMIME (sniff : Bytes → String) (content : Bytes) : String :=
  if content = [] then "application/octet-stream"
  else
    let mimeType := sniff content
    if mimeType = "application/octet-stream" ∨ mimeType = "text/plain; charset=utf-8" then
      let detected := detectBySignature content
      if detected ≠ "" then detected else mimeType
    else mimeType

/-- `extMap` of `DetectExtension`. -/
def extMap : List (String × String) :=
  [("image/jpeg", "jpg"), ("image/png", "png"), ("image/gif", "gif"), ("image/webp", "webp"),
   ("image/svg+xml", "svg"), ("image/bmp", "bmp"), ("video/mp4", "mp4"), ("video/webm", "webm"),
   ("video/mpeg", "mpeg"), ("audio/mpeg", "mp3"), ("audio/ogg", "ogg"), ("audio/wav", "wav"),
   ("application/pdf", "pdf"), ("application/zip", "zip"), ("application/x-gzip", "gz"),
   ("application/json", "json"), ("application/xml", "xml"), ("text/html", "html"),
   ("text/css", "css"), ("text/javascript", "js"), ("text/plain", "txt"),
   ("application/octet-stream", "bin")]

/-- `(*Detector).DetectExtension`. -/
def detectExtension (sniff : Bytes → String) (content : Bytes) : String :=
  (extMap.lookup (detectMIME sniff content)).getD "bin"

/-- `filepath.Ext` on a Unix path: from the last `.` of the last path element, or empty. -/
def filepathExt (path : String) : String :=
  go path.data.reverse []
where
  go : List Char → List Char → String
    | [], _ => ""
    | c :: cs, acc => if c = '/' then "" else if c = '.' then String.mk (c :: acc) else go cs (c :: acc)

/-- `strings.TrimPrefix`. -/
def trimPrefix (s pre : String) : String :=
  if pre.data <+: s.data then String.mk (s.data.drop pre.length) else s

/-- `(*Detector).isGzipCompressed`, the detector's own copy of the magic test. -/
def isGzipCompressed (content : Bytes) : Bool := isGzipped content

/-- `(*Detector).DetectType`; the `error` it returns is always `nil`. -/
def detectType (sniff : Bytes → String) (content : Bytes) (filename : String) : FileMetadata :=
  let fromName := if filename ≠ "" ∧ filepathExt filename ≠ "" then
    trimPrefix (filepathExt filename) "." else ""
  { filename := filename
    size := content.length
    contentType := detectMIME sniff content
    extension := if fromName = "" then detectExtension sniff content else fromName
    hash := ""
    compressed := isGzipCompressed content
    encrypted := false
    createdAt := none }

end VerusGateway.Storage

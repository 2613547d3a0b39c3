import VerusGateway.Domain.Errors
import Mathlib.Data.List.Infix
import Mathlib.Data.Option.Basic

/-!
# Files and file requests

The records of `internal/domain/file.go` and the two methods the service calls on a request:
`FileRequest.Validate` and `FileRequest.CacheKey`.

The four regular expressions of the file are written as predicates on the string's characters
(`txidPattern`, `evkPattern`, `filenamePattern`, `chainIDPattern`); each is anchored at both ends, so a
match is "every character is in the class" plus the length bound of its quantifier. Go's `len` counts
bytes, which is `String.utf8ByteSize`.
-/

namespace VerusGateway

/-- `domain.FileMetadata`. `createdAt` is a wall-clock time. -/
structure FileMetadata where
  filename : String
  size : Int
  contentType : String
  extension : String
  hash : String
  compressed : Bool
  encrypted : Bool
  createdAt : Option Int
  deriving DecidableEq, Repr

/-- The zero value `domain.FileMetadata{}`. -/
def FileMetadata.zero : FileMetadata := ⟨"", 0, "", "", "", false, false, none⟩

/-- `domain.File`; `metadata` is the `*FileMetadata` pointer. -/
structure File where
  txid : String
  chainId : String
  content : Bytes
  metadata : Option FileMetadata
  retrievedAt : Int
  deriving DecidableEq, Repr

/-- `domain.FileRequest`. -/
structure FileRequest where
  txid : String
  evk : String
  chainId : String
  filename : String
  useCache : Bool
  deriving DecidableEq, Repr

/-! ### The patterns -/

/-- `[a-fA-F0-9]` -/
def isHexChar (c : Char) : Bool :=
  ('0' ≤ c && c ≤ '9') || ('a' ≤ c && c ≤ 'f') || ('A' ≤ c && c ≤ 'F')

/-- `[a-zA-Z0-9]` -/
def isAlnumChar (c : Char) : Bool := c.isAlphanum

/-- `[a-zA-Z0-9._\-() \[\]]` -/
def isFilenameChar (c : Char) : Bool :=
  c.isAlphanum || c == '.' || c == '_' || c == '-' || c == '(' || c == ')' || c == ' ' ||
    c == '[' || c == ']'

/-- `[a-zA-Z0-9_\-]` -/
def isChainIDChar (c : Char) : Bool := c.isAlphanum || c == '_' || c == '-'

/-- `^[a-fA-F0-9]{64}$` -/
def txidPattern (s : String) : Bool := s.length == 64 && s.data.all isHexChar

/-- `^zxviews[a-zA-Z0-9]{90,}$` -/
def evkPattern (s : String) : Bool :=
  s.data.take 7 == "zxviews".data && 90 ≤ (s.data.drop 7).length && (s.data.drop 7).all isAlnumChar

/-- `^[a-zA-Z0-9._\-() \[\]]+$` -/
def filenamePattern (s : String) : Bool := !s.data.isEmpty && s.data.all isFilenameChar

/-- `^[a-zA-Z0-9_\-]+$` -/
def chainIDPattern (s : String) : Bool := !s.data.isEmpty && s.data.all isChainIDChar

/-- `strings.Contains(s, sub)`. -/
def containsStr (s sub : String) : Bool := decide (sub.data <:+: s.data)

/-! ### Validate and CacheKey -/

namespace FileRequest

/-- One `if cond { return NewInvalidInputError(field, reason) }` of `Validate`. -/
def check (cond : Bool) (field reason : String) : Option GoError :=
  if cond then some (newInvalidInputError field reason) else none

/-- `(*FileRequest).Validate`: the first check that fires returns its error; `none` is a `nil` error.
The checks on the filename and the viewing key sit under `if r.Filename != ""` and `if r.EVK != ""`. -/
def validate (r : FileRequest) : Option GoError :=
  check (r.txid == "") "txid" "txid is required" <|>
  check (r.txid.utf8ByteSize != 64) "txid" "txid must be exactly 64 characters" <|>
  check (!txidPattern r.txid) "txid" "txid must be valid hex (0-9, a-f)" <|>
  check (r.chainId == "") "chain_id" "chain_id is required" <|>
  check (r.chainId.utf8ByteSize > 32) "chain_id" "chain_id too long (max 32 characters)" <|>
  check (!chainIDPattern r.chainId) "chain_id" "chain_id contains invalid characters" <|>
  check (r.filename != "" && r.filename.utf8ByteSize > 255) "filename"
    "filename too long (max 255 characters)" <|>
  check (r.filename != "" && (containsStr r.filename ".." || containsStr r.filename "/" ||
      containsStr r.filename "\\")) "filename" "filename contains invalid path characters" <|>
  check (r.filename != "" && !filenamePattern r.filename) "filename"
    "filename contains invalid characters" <|>
  check (r.evk != "" && (r.evk.utf8ByteSize < 95 || r.evk.utf8ByteSize > 500)) "evk"
    "viewing key has invalid length (must be 95-500 characters)" <|>
  check (r.evk != "" && !evkPattern r.evk) "evk"
    "viewing key has invalid format (must start with 'zxviews')"

@[simp] theorem check_eq_none {c : Bool} {field reason : String} :
    check c field reason = none ↔ c = false := by
  cases c <;> simp [check]

/-- `(*FileRequest).CacheKey`. -/
def cacheKey (r : FileRequest) : String :=
  if r.evk ≠ "" then r.chainId ++ ":" ++ r.txid ++ ":encrypted" else r.chainId ++ ":" ++ r.txid

end FileRequest

end VerusGateway

import Mathlib.Data.List.Basic

/-!
# Errors

Go `error` values as the gateway builds them (`internal/domain/errors.go`): package sentinels made by
`errors.New`, `fmt.Errorf` wrappers with `%w`, and `*domain.Error` with its code, message, HTTP status,
wrapped cause and details. `GoError.text` is `Error()`, and `GoError.code` is the code that
`errors.As(err, &domainErr)` finds, which is what the HTTP layer reports.

Errors that come from outside the modelled code (the node, the file system, the network) are `other`,
by their text.
-/

namespace VerusGateway

/-- Byte strings (`[]byte`). -/
abbrev Bytes := List UInt8

/-- `[]byte(s)`: the UTF-8 encoding of `s`. -/
def bytesOf (s : String) : Bytes := s.toUTF8.data.toList

/-- A Go `error` value. -/
inductive GoError where
  /-- A package-level variable made by `errors.New`; Go compares these by identity, here by `name`. -/
  | sentinel (name text : String)
  /-- `fmt.Errorf("text: %w", cause)`. -/
  | wrap (text : String) (cause : GoError)
  /-- A `*domain.Error`; `details` lists the `WithDetail` calls in order. -/
  | domain (code message : String) (httpStatus : Nat) (err : Option GoError)
      (details : List (String × String))
  /-- An error raised outside the modelled code, by its text. -/
  | other (text : String)

namespace GoError

/-- `err.Error()`. -/
def text : GoError → String
  | sentinel _ t => t
  | wrap t c => t ++ ": " ++ c.text
  | domain _ m _ (some e) _ => m ++ ": " ++ e.text
  | domain _ m _ none _ => m
  | other t => t

/-- The `Code` of the first `*domain.Error` on the unwrap chain, as `errors.As` finds it. -/
def code : GoError → Option String
  | wrap _ c => c.code
  | domain c _ _ _ _ => some c
  | _ => none

/-- Whether `err == sentinel`: the same package variable. -/
def isSentinel (name : String) : GoError → Bool
  | sentinel n _ => n == name
  | _ => false

end GoError

/-! ### Sentinels of package `domain` that the modelled code returns -/

def errInvalidInput : GoError := .sentinel "domain.ErrInvalidInput" "invalid input"
def errCacheMiss : GoError := .sentinel "domain.ErrCacheMiss" "cache miss"
def errDecompressionFailed : GoError :=
  .sentinel "domain.ErrDecompressionFailed" "decompression failed"
def errInvalidTXID : GoError := .sentinel "domain.ErrInvalidTXID" "invalid txid"
def errInvalidEVK : GoError := .sentinel "domain.ErrInvalidEVK" "invalid evk"

/-! ### Constructors of `*domain.Error` -/

/-- `NewError(code, message, httpStatus, err)`: no details yet. -/
def newError (code message : String) (httpStatus : Nat) (err : Option GoError) : GoError :=
  .domain code message httpStatus err []

/-- `e.WithDetail(key, value)` on a `*domain.Error`. -/
def GoError.withDetail (key value : String) : GoError → GoError
  | .domain c m s e d => .domain c m s e (d ++ [(key, value)])
  | e => e

def newInvalidInputError (field reason : String) : GoError :=
  ((newError "INVALID_INPUT" ("invalid input: " ++ reason) 400 (some errInvalidInput)).withDetail
    "field" field).withDetail "reason" reason

def newDecryptionError (txid : String) (err : GoError) : GoError :=
  (newError "DECRYPTION_FAILED" "failed to decrypt data" 500 (some err)).withDetail "txid" txid

def newChainError (chainID reason : String) : GoError :=
  ((newError "CHAIN_ERROR" ("chain error: " ++ reason) 400 none).withDetail "chain_id" chainID).withDetail
    "reason" reason

def newDecompressionError (reason : String) : GoError :=
  (newError "DECOMPRESSION_FAILED" ("decompression failed: " ++ reason) 500
    (some errDecompressionFailed)).withDetail "reason" reason

/-- How a run on fixed inputs is read off a decidable evaluation of `toOption`. -/
theorem eq_ok_of_toOption {α : Type} {x : Except GoError α} {a : α} (h : x.toOption = some a) :
    x = .ok a := by
  cases x <;> simp_all [Except.toOption]

@[simp] theorem code_newInvalidInputError (field reason : String) :
    (newInvalidInputError field reason).code = some "INVALID_INPUT" := rfl

@[simp] theorem code_newDecryptionError (txid : String) (err : GoError) :
    (newDecryptionError txid err).code = some "DECRYPTION_FAILED" := rfl

@[simp] theorem code_newChainError (chainID reason : String) :
    (newChainError chainID reason).code = some "CHAIN_ERROR" := rfl

@[simp] theorem code_newDecompressionError (reason : String) :
    (newDecompressionError reason).code = some "DECOMPRESSION_FAILED" := rfl

end VerusGateway

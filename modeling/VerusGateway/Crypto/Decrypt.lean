import VerusGateway.Domain.File

/-!
# The decryptor

`internal/crypto/decrypt.go`: `DecryptData` checks the transaction id and the viewing key against the
package's own patterns `reTXID` and `reEVK`, asks the node for the decrypted payload through the RPC
client's `DecryptData`, and hex-decodes the reply.

An `RPCClient` is the interface the decryptor holds: a function of the context, the transaction id and
the viewing key to the node's reply, a hex string, or an error. The context is the one the request
carries, given as its `ctx.Err()` (`none` while it is live). `verusrpc.Client` implements it on top of
its retrying `Call` (`Rpc.Client.decryptData`); the results here hold for every implementation.
`hex.DecodeString` is written out as the standard library computes it, on the bytes of the string.
-/

namespace VerusGateway.Crypto

/-- `^[0-9a-fA-F]{64}$` -/
def reTXID (s : String) : Bool := s.length == 64 && s.data.all isHexChar

/-- `^zxviews[0-9a-z]+$` -/
def reEVK (s : String) : Bool :=
  s.data.take 7 == "zxviews".data && !(s.data.drop 7).isEmpty &&
    (s.data.drop 7).all fun c => c.isDigit || c.isLower

/-- `ValidateTXID`. -/
def validateTXID (txid : String) : Option GoError := if reTXID txid then none else some errInvalidTXID

/-- `ValidateEVK`. -/
def validateEVK (evk : String) : Option GoError := if reEVK evk then none else some errInvalidEVK

/-- `crypto.RPCClient`: `DecryptData(ctx, txid, evk)`. -/
abbrev RPCClient := Option GoError → String → String → Except GoError String

/-- `reverseHexTable`: the value of a hex digit's byte. -/
def hexVal (b : UInt8) : Option UInt8 :=
  if 0x30 ≤ b ∧ b ≤ 0x39 then some (b - 0x30)
  else if 0x61 ≤ b ∧ b ≤ 0x66 then some (b - 0x61 + 10)
  else if 0x41 ≤ b ∧ b ≤ 0x46 then some (b - 0x41 + 10)
  else none

/-- An upper-case hex digit. -/
def upperHexDigit (d : Nat) : Char := if d < 10 then Char.ofNat (48 + d) else Char.ofNat (55 + d)

/-- `strconv.IsPrint` on a rune below `0x100`. -/
def isPrintLatin1 (n : Nat) : Bool := (0x20 ≤ n && n ≤ 0x7e) || (0xa1 ≤ n && n ≤ 0xff && n != 0xad)

/-- `fmt`'s `%#U` of a rune below `0x100`: `U+00XX`, and the character in quotes when it prints. -/
def formatRuneU (n : Nat) : String :=
  "U+00" ++ String.mk [upperHexDigit (n / 16), upperHexDigit (n % 16)] ++
    if isPrintLatin1 n then " '" ++ (Char.ofNat n).toString ++ "'" else ""

/-- `hex.InvalidByteError`: `encoding/hex: invalid byte: %#U` of the byte as a rune. -/
def invalidByteError (b : UInt8) : GoError :=
  .other ("encoding/hex: invalid byte: " ++ formatRuneU b.toNat)

/-- `hex.ErrLength`. -/
def errLength : GoError := .sentinel "hex.ErrLength" "encoding/hex: odd length hex string"

/-- `hex.Decode`: pairs of bytes left to right, the first bad digit reported; a trailing odd byte
is checked before the length is. -/
def decodeHex : Bytes → Except GoError Bytes
  | [] => .ok []
  | [p] => if (hexVal p).isNone then .error (invalidByteError p) else .error errLength
  | p :: q :: rest =>
    match hexVal p, hexVal q with
    | some a, some b => (decodeHex rest).map fun out => (a * 16 + b) :: out
    | none, _ => .error (invalidByteError p)
    | some _, none => .error (invalidByteError q)

/-- `hex.DecodeString`, on `[]byte(s)`. -/
def decodeString (s : String) : Except GoError Bytes := decodeHex (bytesOf s)

/-- `(*Decryptor).DecryptData`. -/
def decryptData (client : RPCClient) (ctx : Option GoError) (txid evk : String) : Except GoError Bytes :=
  match validateTXID txid, validateEVK evk with
  | some e, _ => .error (newInvalidInputError "txid" e.text)
  | none, some e => .error (newInvalidInputError "evk" e.text)
  | none, none =>
    match client ctx txid evk with
    | .error e => .error (newDecryptionError txid e)
    | .ok hexData =>
      match decodeString hexData with
      | .error e => .error (newDecryptionError txid (.wrap "failed to decode hex data" e))
      | .ok data => .ok data

section WellFormed

variable (client : RPCClient) (ctx : Option GoError) {txid evk : String} (htxid : reTXID txid = true)
  (hevk : reEVK evk = true)
include htxid hevk

/-- A well-formed request reaches the node, and a failing node fails the call. -/
theorem decryptData_of_node_error {e : GoError} (hnode : client ctx txid evk = .error e) :
    decryptData client ctx txid evk = .error (newDecryptionError txid e) := by
  simp [decryptData, validateTXID, validateEVK, htxid, hevk, hnode]

theorem decryptData_of_node_ok {hexData : String} (hnode : client ctx txid evk = .ok hexData) :
    decryptData client ctx txid evk =
      match decodeString hexData with
      | .error e => .error (newDecryptionError txid (.wrap "failed to decode hex data" e))
      | .ok data => .ok data := by
  simp [decryptData, validateTXID, validateEVK, htxid, hevk, hnode]

end WellFormed

theorem decryptData_error_of_node {client : RPCClient} {ctx : Option GoError} {txid evk : String} {e : GoError}
    (hnode : client ctx txid evk = .error e) : ∃ err, decryptData client ctx txid evk = .error err := by
  unfold decryptData
  split
  · exact ⟨_, rfl⟩
  · exact ⟨_, rfl⟩
  · exact ⟨_, by rw [hnode]⟩

end VerusGateway.Crypto

import AttestedPayments.Cipher.Aes

/-!
# Messages of any length under the block cipher

* `pad`, `unpad?` — a message filled up to whole blocks by octets that tell their own count; every
  message gets at least one.
* `chain`, `unchain` — each block is combined with the encrypted block before it.
* `encrypt`, `decrypt?` — messages under a key, starting from a block of zeros.
-/

namespace AttestedPayments.Cipher

/-- The octets of a block. -/
def blockSize : Nat := 16

/-- A message filled up to whole blocks. -/
def pad (message : Bytes) : Bytes :=
  let count := blockSize - message.length % blockSize
  message ++ List.replicate count (UInt8.ofNat count)

/-- The message that was filled up to whole blocks. -/
def unpad? (padded : Bytes) : Option Bytes :=
  let count := (padded.getLastD 0).toNat
  let message := padded.take (padded.length - count)
  if padded.length % blockSize = 0 ∧ 1 ≤ count ∧ count ≤ blockSize ∧ count ≤ padded.length ∧
      padded.drop (padded.length - count) = List.replicate count (UInt8.ofNat count) then
    some message
  else none

/-- Encrypt blocks, each combined with the encrypted block before it. -/
def chain (encryptBlock : Bytes → Bytes) (before : Bytes) : List Bytes → List Bytes
  | [] => []
  | block :: rest =>
    let encrypted := encryptBlock (xorBytes block before)
    encrypted :: chain encryptBlock encrypted rest

/-- Decrypt what `chain` gives. -/
def unchain (decryptBlock : Bytes → Bytes) (before : Bytes) : List Bytes → List Bytes
  | [] => []
  | encrypted :: rest =>
    xorBytes (decryptBlock encrypted) before :: unchain decryptBlock encrypted rest

/-- The block that stands before the first one. -/
def zeroBlock : Bytes := List.replicate blockSize 0

/-- Encrypt a message. -/
def encrypt (key message : Bytes) : Bytes :=
  (chain (Aes.encryptBlock (Aes.roundKeys key)) zeroBlock (chunks blockSize (pad message))).flatten

/-- Decrypt whole blocks that end in a filling. -/
def decrypt? (key encrypted : Bytes) : Option Bytes :=
  if encrypted.length % blockSize = 0 then
    unpad? (unchain (Aes.decryptBlock (Aes.roundKeys key)) zeroBlock
      (chunks blockSize encrypted)).flatten
  else none

end AttestedPayments.Cipher

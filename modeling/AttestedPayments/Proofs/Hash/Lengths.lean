import AttestedPayments.Hash.Hmac
import AttestedPayments.Hash.Sha512

/-!
# How long digests are

* `Sha256.length_digest`, `Sha512.length_digest`, `Sha512.length_digest384` — digests of messages.
* `length_hmacSha1` — keyed digests.
-/

set_option autoImplicit false

namespace AttestedPayments.Hash

@[simp] theorem length_octets32 (words : List UInt32) :
    (octets32 words).length = 4 * words.length := by
  simp [octets32, List.length_flatMap, List.map_const', Nat.mul_comm]

@[simp] theorem length_octets64 (words : List UInt64) :
    (octets64 words).length = 8 * words.length := by
  simp [octets64, List.length_flatMap, List.map_const', Nat.mul_comm]

@[simp] theorem Sha1.length_digest (message : Bytes) : (Sha1.digest message).length = 20 := by
  rw [Sha1.digest, length_octets32]
  rfl

@[simp] theorem Sha256.length_digest (message : Bytes) : (Sha256.digest message).length = 32 := by
  rw [Sha256.digest, length_octets32]
  rfl

@[simp] theorem Sha512.length_digest (message : Bytes) : (Sha512.digest message).length = 64 := by
  rw [Sha512.digest, length_octets64]
  rfl

@[simp] theorem Sha512.length_digest384 (message : Bytes) :
    (Sha512.digest384 message).length = 48 := by
  rw [Sha512.digest384, List.length_take, length_octets64]
  rfl

@[simp] theorem length_hmacSha1 (key message : Bytes) : (hmacSha1 key message).length = 20 := by
  rw [hmacSha1, hmac, Sha1.length_digest]

end AttestedPayments.Hash

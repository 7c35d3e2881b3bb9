import AttestedPayments.Hash.Sha1
import AttestedPayments.Hash.Sha256

/-!
# Keyed digests

* `hmac` — the digest of a message under a key, for any hash function.
* `hmacSha1`, `hmacSha256` — for the two hash functions in use.
-/

namespace AttestedPayments.Hash

/-- A key brought to the size of a block: a longer key is replaced by its digest. -/
def blockKey (hash : Bytes → Bytes) (blockSize : Nat) (key : Bytes) : Bytes :=
  let short := if key.length ≤ blockSize then key else hash key
  short ++ List.replicate (blockSize - short.length) 0

/-- The digest of a message under a key. -/
def hmac (hash : Bytes → Bytes) (blockSize : Nat) (key message : Bytes) : Bytes :=
  let key := blockKey hash blockSize key
  hash (key.map (· ^^^ 0x5c) ++ hash (key.map (· ^^^ 0x36) ++ message))

/-- The keyed digest of twenty octets. -/
def hmacSha1 : Bytes → Bytes → Bytes := hmac Sha1.digest 64

/-- The keyed digest of thirty-two octets. -/
def hmacSha256 : Bytes → Bytes → Bytes := hmac Sha256.digest 64

end AttestedPayments.Hash

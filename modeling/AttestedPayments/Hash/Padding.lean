import AttestedPayments.Bytes

/-!
# Blocks of a message to be hashed

* `paddedBlocks` — a message, the octet 80, as few zeros as are needed, and the length in bits,
  cut into blocks.
* `words32`, `words64` — a block as big-endian words.
-/

namespace AttestedPayments.Hash

/-- How many zero octets bring `length` octets, the octet 80 and the length field to a multiple of
the block size. -/
def zeroCount (blockSize lengthWidth length : Nat) : Nat :=
  (blockSize - (length + 1 + lengthWidth) % blockSize) % blockSize

/-- The padded message. -/
def pad (blockSize lengthWidth : Nat) (message : Bytes) : Bytes :=
  message ++ 0x80 :: List.replicate (zeroCount blockSize lengthWidth message.length) 0 ++
    BigEndian.digits lengthWidth (8 * message.length)

/-- The blocks of the padded message. -/
def paddedBlocks (blockSize lengthWidth : Nat) (message : Bytes) : List Bytes :=
  chunks blockSize (pad blockSize lengthWidth message)

/-- Octets as 32-bit words, most significant octet first. -/
def words32 (bytes : Bytes) : List UInt32 :=
  (chunks 4 bytes).map fun word => word.foldl (fun n b => 256 * n + b.toUInt32) 0

/-- Octets as 64-bit words, most significant octet first. -/
def words64 (bytes : Bytes) : List UInt64 :=
  (chunks 8 bytes).map fun word => word.foldl (fun n b => 256 * n + b.toUInt64) 0

def octets32 (words : List UInt32) : Bytes := words.flatMap fun w => BigEndian.digits 4 w.toNat

def octets64 (words : List UInt64) : Bytes := words.flatMap fun w => BigEndian.digits 8 w.toNat

/-- A 32-bit word turned left. -/
def turnLeft32 (w : UInt32) (n : UInt32) : UInt32 := (w <<< n) ||| (w >>> (32 - n))

/-- A 32-bit word turned right. -/
def turnRight32 (w : UInt32) (n : UInt32) : UInt32 := (w >>> n) ||| (w <<< (32 - n))

/-- A 64-bit word turned right. -/
def turnRight64 (w : UInt64) (n : UInt64) : UInt64 := (w >>> n) ||| (w <<< (64 - n))

end AttestedPayments.Hash

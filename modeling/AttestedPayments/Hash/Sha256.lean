import AttestedPayments.Hash.Padding

/-!
# SHA-256

* `Sha256.roundConstants` — the fractional parts of the cube roots of the first 64 primes.
* `Sha256.compress` — one block worked into the state.
* `Sha256.digest` — the thirty-two octets of a message's digest.
-/

namespace AttestedPayments.Hash.Sha256

/-- The 32-bit fractions of the cube roots of the first 64 primes. -/
def roundConstants : List UInt32 :=
  [0x428a2f98, 0x71374491, 0xb5c0fbcf, 0xe9b5dba5, 0x3956c25b, 0x59f111f1,
   0x923f82a4, 0xab1c5ed5, 0xd807aa98, 0x12835b01, 0x243185be, 0x550c7dc3,
   0x72be5d74, 0x80deb1fe, 0x9bdc06a7, 0xc19bf174, 0xe49b69c1, 0xefbe4786,
   0x0fc19dc6, 0x240ca1cc, 0x2de92c6f, 0x4a7484aa, 0x5cb0a9dc, 0x76f988da,
   0x983e5152, 0xa831c66d, 0xb00327c8, 0xbf597fc7, 0xc6e00bf3, 0xd5a79147,
   0x06ca6351, 0x14292967, 0x27b70a85, 0x2e1b2138, 0x4d2c6dfc, 0x53380d13,
   0x650a7354, 0x766a0abb, 0x81c2c92e, 0x92722c85, 0xa2bfe8a1, 0xa81a664b,
   0xc24b8b70, 0xc76c51a3, 0xd192e819, 0xd6990624, 0xf40e3585, 0x106aa070,
   0x19a4c116, 0x1e376c08, 0x2748774c, 0x34b0bcb5, 0x391c0cb3, 0x4ed8aa4a,
   0x5b9cca4f, 0x682e6ff3, 0x748f82ee, 0x78a5636f, 0x84c87814, 0x8cc70208,
   0x90befffa, 0xa4506ceb, 0xbef9a3f7, 0xc67178f2]

/-- The eight words of a state. -/
structure State where
  a : UInt32
  b : UInt32
  c : UInt32
  d : UInt32
  e : UInt32
  f : UInt32
  g : UInt32
  h : UInt32
  deriving DecidableEq, Repr

def State.words (s : State) : List UInt32 := [s.a, s.b, s.c, s.d, s.e, s.f, s.g, s.h]

def State.add (s t : State) : State :=
  ⟨s.a + t.a, s.b + t.b, s.c + t.c, s.d + t.d, s.e + t.e, s.f + t.f, s.g + t.g, s.h + t.h⟩

/-- The 32-bit fractions of the square roots of the first eight primes. -/
def initial : State :=
  ⟨0x6a09e667, 0xbb67ae85, 0x3c6ef372, 0xa54ff53a,
   0x510e527f, 0x9b05688c, 0x1f83d9ab, 0x5be0cd19⟩

/-- One more word in front of a schedule that is written newest first. -/
def grow (schedule : List UInt32) : List UInt32 :=
  let x := schedule.getD 1 0
  let y := schedule.getD 14 0
  let x' := turnRight32 x 17 ^^^ turnRight32 x 19 ^^^ (x >>> 10)
  let y' := turnRight32 y 7 ^^^ turnRight32 y 18 ^^^ (y >>> 3)
  (x' + schedule.getD 6 0 + y' + schedule.getD 15 0) :: schedule

/-- The 64 words of a block's schedule. -/
def schedule (block : Bytes) : List UInt32 :=
  (Nat.repeat grow 48 (words32 block).reverse).reverse

/-- One round with its constant and its word. -/
def step (s : State) (constant word : UInt32) : State :=
  let sigma1 := turnRight32 s.e 6 ^^^ turnRight32 s.e 11 ^^^ turnRight32 s.e 25
  let choice := (s.e &&& s.f) ^^^ (~~~s.e &&& s.g)
  let t1 := s.h + sigma1 + choice + constant + word
  let sigma0 := turnRight32 s.a 2 ^^^ turnRight32 s.a 13 ^^^ turnRight32 s.a 22
  let majority := (s.a &&& s.b) ^^^ (s.a &&& s.c) ^^^ (s.b &&& s.c)
  let t2 := sigma0 + majority
  ⟨t1 + t2, s.a, s.b, s.c, s.d + t1, s.e, s.f, s.g⟩

/-- One block worked into the state. -/
def compress (s : State) (block : Bytes) : State :=
  s.add ((List.zip roundConstants (schedule block)).foldl (fun s (k, w) => step s k w) s)

def digest (message : Bytes) : Bytes :=
  octets32 ((paddedBlocks 64 8 message).foldl compress initial).words

end AttestedPayments.Hash.Sha256

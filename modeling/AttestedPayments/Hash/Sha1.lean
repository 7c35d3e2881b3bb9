import AttestedPayments.Hash.Padding

/-!
# SHA-1

* `Sha1.compress` — one block worked into the state.
* `Sha1.digest` — the twenty octets of a message's digest.
-/

namespace AttestedPayments.Hash.Sha1

/-- The five words of a state. -/
structure State where
  a : UInt32
  b : UInt32
  c : UInt32
  d : UInt32
  e : UInt32
  deriving DecidableEq, Repr

def State.words (s : State) : List UInt32 := [s.a, s.b, s.c, s.d, s.e]

def State.add (s t : State) : State := ⟨s.a + t.a, s.b + t.b, s.c + t.c, s.d + t.d, s.e + t.e⟩

/-- The state before the first block. -/
def initial : State := ⟨0x67452301, 0xefcdab89, 0x98badcfe, 0x10325476, 0xc3d2e1f0⟩

/-- One more word in front of a schedule that is written newest first. -/
def grow (schedule : List UInt32) : List UInt32 :=
  turnLeft32 (schedule.getD 2 0 ^^^ schedule.getD 7 0 ^^^ schedule.getD 13 0 ^^^
    schedule.getD 15 0) 1 :: schedule

/-- The eighty words of a block's schedule. -/
def schedule (block : Bytes) : List UInt32 := (Nat.repeat grow 64 (words32 block).reverse).reverse

/-- How a round mixes three words, and its constant; both change every twenty rounds. -/
def mix (round : Nat) (x y z : UInt32) : UInt32 × UInt32 :=
  if round < 20 then ((x &&& y) ||| (~~~x &&& z), 0x5a827999)
  else if round < 40 then (x ^^^ y ^^^ z, 0x6ed9eba1)
  else if round < 60 then ((x &&& y) ||| (x &&& z) ||| (y &&& z), 0x8f1bbcdc)
  else (x ^^^ y ^^^ z, 0xca62c1d6)

/-- One round with its number and its word. -/
def step (s : State) (round : Nat) (word : UInt32) : State :=
  let (mixed, constant) := mix round s.b s.c s.d
  ⟨turnLeft32 s.a 5 + mixed + s.e + constant + word, s.a, turnLeft32 s.b 30, s.c, s.d⟩

/-- One block worked into the state. -/
def compress (s : State) (block : Bytes) : State :=
  s.add ((schedule block).zipIdx.foldl (fun s (w, round) => step s round w) s)

def digest (message : Bytes) : Bytes :=
  octets32 ((paddedBlocks 64 8 message).foldl compress initial).words

end AttestedPayments.Hash.Sha1

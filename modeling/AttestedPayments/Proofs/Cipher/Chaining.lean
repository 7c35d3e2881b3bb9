import AttestedPayments.Proofs.Cipher.Aes

/-!
# Decrypting a message undoes encrypting it

* `unpad?_pad` — the filling is taken off again.
* `unchain_chain` — chaining is undone by whatever undoes the encryption of single blocks.

Principal results: `decrypt?_encrypt` — under a key of thirty-two octets every message is read back,
whatever its length — and `decrypt?_eq_some_iff`, by which nothing else is.
-/

set_option autoImplicit false

namespace AttestedPayments.Cipher

/-! ## Filling -/

/-- A message is filled up to whole blocks. -/
theorem dvd_length_pad (message : Bytes) : blockSize ∣ (pad message).length := by
  have hlt := Nat.mod_lt message.length (show blockSize > 0 by decide)
  refine ⟨message.length / blockSize + 1, ?_⟩
  have hdiv := Nat.div_add_mod message.length blockSize
  rw [pad, List.length_append, List.length_replicate, Nat.mul_succ]
  omega

/-- **The filling is taken off again.** -/
theorem unpad?_pad (message : Bytes) : unpad? (pad message) = some message := by
  have hlt := Nat.mod_lt message.length (show blockSize > 0 by decide)
  obtain ⟨count, hcount⟩ : ∃ count, count = blockSize - message.length % blockSize := ⟨_, rfl⟩
  have hpos : 1 ≤ count := by omega
  have hle : count ≤ blockSize := by omega
  have hpad : pad message = message ++ List.replicate count (UInt8.ofNat count) := by
    rw [hcount]
    rfl
  have hlast : (pad message).getLastD 0 = UInt8.ofNat count := by
    obtain ⟨more, rfl⟩ : ∃ more, count = more + 1 := ⟨count - 1, by omega⟩
    rw [hpad, List.replicate_succ', ← List.append_assoc, List.getLastD_concat]
  have hnat : (UInt8.ofNat count).toNat = count := by
    have : blockSize = 16 := rfl
    rw [UInt8.toNat_ofNat']
    omega
  have hlen : (pad message).length - count = message.length := by
    rw [hpad, List.length_append, List.length_replicate]
    omega
  have hmod := Nat.mod_eq_zero_of_dvd (dvd_length_pad message)
  have hdrop : (pad message).drop message.length = List.replicate count (UInt8.ofNat count) := by
    rw [hpad, List.drop_left]
  have htake : (pad message).take message.length = message := by
    rw [hpad, List.take_left]
  have hcountle : count ≤ (pad message).length := by
    rw [hpad, List.length_append, List.length_replicate]
    omega
  simp only [unpad?, hlast, hnat, hlen, htake, hdrop]
  rw [if_pos ⟨hmod, hpos, hle, hcountle, trivial⟩]

/-- **What ends in a filling is a message that was filled up.** -/
theorem unpad?_eq_some_iff {padded message : Bytes} :
    unpad? padded = some message ↔ padded = pad message := by
  refine ⟨fun h => ?_, fun h => h ▸ unpad?_pad message⟩
  unfold unpad? at h
  dsimp only at h
  generalize (padded.getLastD 0).toNat = count at h
  split at h
  · rename_i hfilled
    obtain ⟨hwhole, hpos, hle, hlong, hdrop⟩ := hfilled
    obtain rfl := Option.some.inj h
    have hlen : (padded.take (padded.length - count)).length = padded.length - count :=
      List.length_take_of_le (Nat.sub_le _ _)
    have hcount : blockSize - (padded.take (padded.length - count)).length % blockSize = count := by
      rw [hlen]
      simp only [blockSize] at hwhole hle ⊢
      omega
    rw [pad, hcount, ← hdrop, List.take_append_drop]
  · cases h

/-! ## Chains of blocks -/

variable {encryptBlock decryptBlock : Bytes → Bytes}

/-- Encrypted blocks are blocks again. -/
theorem length_of_mem_chain {blocks : List Bytes} {before : Bytes}
    (hlen : ∀ block : Bytes, block.length = blockSize → (encryptBlock block).length = blockSize)
    (hblocks : ∀ block ∈ blocks, block.length = blockSize) (hbefore : before.length = blockSize) :
    ∀ block ∈ chain encryptBlock before blocks, block.length = blockSize := by
  induction blocks generalizing before with
  | nil => exact fun _ h => nomatch h
  | cons block blocks ih =>
    obtain ⟨hblock, hblocks⟩ := List.forall_mem_cons.mp hblocks
    have hsum : (xorBytes block before).length = blockSize :=
      (length_xorBytes (hblock.trans hbefore.symm)).trans hblock
    exact List.forall_mem_cons.mpr ⟨hlen _ hsum, ih hblocks (hlen _ hsum)⟩

/-- **Chaining is undone** by whatever undoes the encryption of single blocks. -/
theorem unchain_chain {blocks : List Bytes} {before : Bytes}
    (hlen : ∀ block : Bytes, block.length = blockSize → (encryptBlock block).length = blockSize)
    (hundo : ∀ block : Bytes, block.length = blockSize → decryptBlock (encryptBlock block) = block)
    (hblocks : ∀ block ∈ blocks, block.length = blockSize) (hbefore : before.length = blockSize) :
    unchain decryptBlock before (chain encryptBlock before blocks) = blocks := by
  induction blocks generalizing before with
  | nil => rfl
  | cons block blocks ih =>
    obtain ⟨hblock, hblocks⟩ := List.forall_mem_cons.mp hblocks
    have hsame := hblock.trans hbefore.symm
    have hsum : (xorBytes block before).length = blockSize :=
      (length_xorBytes hsame).trans hblock
    simp only [chain, unchain]
    rw [hundo _ hsum, xorBytes_xorBytes hsame, ih hblocks (hlen _ hsum)]

/-- **Unchaining is undone** in the same way. -/
theorem chain_unchain {blocks : List Bytes} {before : Bytes}
    (hlen : ∀ block : Bytes, block.length = blockSize → (decryptBlock block).length = blockSize)
    (hredo : ∀ block : Bytes, block.length = blockSize → encryptBlock (decryptBlock block) = block)
    (hblocks : ∀ block ∈ blocks, block.length = blockSize) (hbefore : before.length = blockSize) :
    chain encryptBlock before (unchain decryptBlock before blocks) = blocks := by
  induction blocks generalizing before with
  | nil => rfl
  | cons block blocks ih =>
    obtain ⟨hblock, hblocks⟩ := List.forall_mem_cons.mp hblocks
    have hsame := (hlen block hblock).trans hbefore.symm
    simp only [chain, unchain]
    rw [xorBytes_xorBytes hsame, hredo block hblock, ih hblocks hblock]

/-- Decrypted blocks are blocks again. -/
theorem length_of_mem_unchain {blocks : List Bytes} {before : Bytes}
    (hlen : ∀ block : Bytes, block.length = blockSize → (decryptBlock block).length = blockSize)
    (hblocks : ∀ block ∈ blocks, block.length = blockSize) (hbefore : before.length = blockSize) :
    ∀ block ∈ unchain decryptBlock before blocks, block.length = blockSize := by
  induction blocks generalizing before with
  | nil => exact fun _ h => nomatch h
  | cons block blocks ih =>
    obtain ⟨hblock, hblocks⟩ := List.forall_mem_cons.mp hblocks
    have hsum : (xorBytes (decryptBlock block) before).length = blockSize :=
      (length_xorBytes ((hlen block hblock).trans hbefore.symm)).trans (hlen block hblock)
    exact List.forall_mem_cons.mpr ⟨hsum, ih hblocks hblock⟩

@[simp] theorem length_chain (before : Bytes) (blocks : List Bytes) :
    (chain encryptBlock before blocks).length = blocks.length := by
  induction blocks generalizing before with
  | nil => rfl
  | cons block blocks ih => rw [chain, List.length_cons, List.length_cons, ih]

/-! ## Whole messages -/

theorem length_encryptBlock_of_key {key : Bytes} (hkey : key.length = 32) (block : Bytes)
    (h : block.length = blockSize) :
    (Aes.encryptBlock (Aes.roundKeys key) block).length = blockSize :=
  Aes.length_encryptBlock (Aes.length_of_mem_roundKeys hkey) h

theorem length_zeroBlock : zeroBlock.length = blockSize := List.length_replicate

/-- An encrypted message is made of blocks. -/
theorem length_of_mem_encrypted {key : Bytes} (hkey : key.length = 32) (message : Bytes) :
    ∀ block ∈ chain (Aes.encryptBlock (Aes.roundKeys key)) zeroBlock
      (chunks blockSize (pad message)), block.length = blockSize :=
  length_of_mem_chain (length_encryptBlock_of_key hkey)
    (length_of_mem_chunks (dvd_length_pad message)) length_zeroBlock

/-- An encrypted message is as long as the filled one. -/
theorem length_encrypt {key : Bytes} (hkey : key.length = 32) (message : Bytes) :
    (encrypt key message).length = (pad message).length := by
  have hpieces := length_flatten_of_forall (length_of_mem_chunks (dvd_length_pad message))
  rw [chunks_flatten (by decide)] at hpieces
  rw [encrypt, length_flatten_of_forall (length_of_mem_encrypted hkey message), length_chain,
    hpieces]

/-- Encrypting shortens nothing. -/
theorem length_le_encrypt {key : Bytes} (hkey : key.length = 32) (message : Bytes) :
    message.length ≤ (encrypt key message).length := by
  rw [length_encrypt hkey, pad, List.length_append]
  exact Nat.le_add_right _ _

/-- **Every message is read back** under the key that it was encrypted with. -/
theorem decrypt?_encrypt {key : Bytes} (hkey : key.length = 32) (message : Bytes) :
    decrypt? key (encrypt key message) = some message := by
  have hundo : ∀ block : Bytes, block.length = blockSize →
      Aes.decryptBlock (Aes.roundKeys key) (Aes.encryptBlock (Aes.roundKeys key) block) = block :=
    fun block h => Aes.decryptBlock_encryptBlock (Aes.length_of_mem_roundKeys hkey) h
  have hblocks := length_of_mem_chunks (dvd_length_pad message)
  have hchain := length_of_mem_encrypted hkey message
  have hwhole : (encrypt key message).length % blockSize = 0 := by
    rw [encrypt, length_flatten_of_forall hchain, Nat.mul_mod_right]
  rw [decrypt?, if_pos hwhole, encrypt, chunks_flatten_of_forall (by decide) hchain,
    unchain_chain (length_encryptBlock_of_key hkey) hundo hblocks length_zeroBlock,
    chunks_flatten (by decide), unpad?_pad]

/-- **Octets are decrypted exactly if they are the encryption of what comes out.** -/
theorem decrypt?_eq_some_iff {key : Bytes} (hkey : key.length = 32) {encrypted message : Bytes} :
    decrypt? key encrypted = some message ↔ encrypted = encrypt key message := by
  refine ⟨fun h => ?_, fun h => h ▸ decrypt?_encrypt hkey message⟩
  have hkeys := Aes.length_of_mem_roundKeys hkey
  unfold decrypt? at h
  split at h
  · rename_i hwhole
    have hblocks := length_of_mem_chunks (Nat.dvd_of_mod_eq_zero hwhole)
    have hplain := length_of_mem_unchain (fun block => Aes.length_decryptBlock hkeys) hblocks
      length_zeroBlock
    have hredo := chain_unchain (fun block => Aes.length_decryptBlock hkeys)
      (fun block => Aes.encryptBlock_decryptBlock hkeys) hblocks length_zeroBlock
    rw [encrypt, ← unpad?_eq_some_iff.mp h, chunks_flatten_of_forall (by decide) hplain, hredo,
      chunks_flatten (by decide)]
  · cases h

end AttestedPayments.Cipher

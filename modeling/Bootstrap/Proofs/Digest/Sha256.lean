import Bootstrap.Digest.Sha256
import Bootstrap.Proofs.Bytes

/-!
# SHA-256 block by block

The standard puts the padding behind the message, cuts the whole into blocks of 64 bytes and
compresses one after the other.  A running hash does not see the whole message: bytes come
in pieces of any lengths, and a block is compressed as soon as it is full.

    pieces    |-----|---------------|--|--------|
    blocks    |----------|----------|----------|----- padding -|

Both come to the same, since a running hash that holds no byte takes a block by
compressing it.

* `Stream.update_flatten` — the pieces do not matter;
* `Stream.update_blocks` — whole blocks are compressed one after the other;
* `digest_eq_blocks` — **the running hash is the hash of the standard**.
-/

namespace Bootstrap.Digest.Sha256

namespace Stream

variable {s : Stream} {piece : Bytes}

/-- **The pieces of a message do not matter.** -/
theorem update_flatten (s : Stream) (pieces : List Bytes) :
    pieces.foldl update s = s.update pieces.flatten := by
  induction pieces generalizing s with
  | nil => rfl
  | cons piece rest ih => rw [List.foldl_cons, ih, List.flatten_cons, update_append]

theorem push_of_lt {b : UInt8} (h : s.count + 1 < blockSize) :
    s.push b = ⟨s.chain, b :: s.pending, s.count + 1, s.length + 1⟩ :=
  if_neg (Nat.ne_of_lt h)

/-- A piece that does not fill the block waits. -/
theorem update_of_lt (h : s.count + piece.length < blockSize) :
    s.update piece =
      ⟨s.chain, piece.reverse ++ s.pending, s.count + piece.length, s.length + piece.length⟩ := by
  induction piece generalizing s with
  | nil => rfl
  | cons b rest ih =>
      rw [List.length_cons] at h
      have hpush : s.push b = ⟨s.chain, b :: s.pending, s.count + 1, s.length + 1⟩ :=
        push_of_lt (by omega)
      have hrest : (s.push b).count + rest.length < blockSize := by
        rw [hpush]
        change s.count + 1 + rest.length < blockSize
        omega
      have hupdate := ih hrest
      rw [hpush] at hupdate
      rw [update, List.foldl_cons, hpush, ← update, hupdate]
      simp only [List.reverse_cons, List.append_assoc, List.singleton_append, List.length_cons,
        Stream.mk.injEq, true_and]
      omega

/-- A hash that holds no byte takes a block by compressing it. -/
theorem update_block {chain : Chain} {n : Nat} {block : Bytes} (h : block.length = blockSize) :
    (⟨chain, [], 0, n⟩ : Stream).update block =
      ⟨compress chain block, [], 0, n + blockSize⟩ := by
  obtain ⟨front, last, rfl⟩ := (List.eq_nil_or_concat block).resolve_left (by
    rintro rfl
    cases h)
  rw [List.length_concat] at h
  have hfront : (⟨chain, [], 0, n⟩ : Stream).update front =
      ⟨chain, front.reverse ++ [], 0 + front.length, n + front.length⟩ :=
    update_of_lt (by change 0 + front.length < blockSize; omega)
  rw [List.concat_eq_append, update_append, hfront]
  have hfull : 0 + front.length + 1 = blockSize := by omega
  have hlength : n + front.length + 1 = n + blockSize := by omega
  simp only [update, List.foldl_cons, List.foldl_nil, push, if_pos hfull, hlength]
  simp

/-- **Whole blocks are compressed one after the other.** -/
theorem update_blocks {blocks : List Bytes} (h : ∀ block ∈ blocks, block.length = blockSize)
    (chain : Chain) (n : Nat) :
    (⟨chain, [], 0, n⟩ : Stream).update blocks.flatten =
      ⟨blocks.foldl compress chain, [], 0, n + blockSize * blocks.length⟩ := by
  induction blocks generalizing chain n with
  | nil => rfl
  | cons block rest ih =>
      have hrest : ∀ b ∈ rest, b.length = blockSize := fun b hb => h b (List.mem_cons_of_mem _ hb)
      rw [List.flatten_cons, update_append, update_block (h block List.mem_cons_self), ih hrest,
        List.foldl_cons, List.length_cons, Nat.mul_succ, Nat.add_assoc, Nat.add_comm blockSize]

theorem length_update (s : Stream) (piece : Bytes) :
    (s.update piece).length = s.length + piece.length := by
  induction piece generalizing s with
  | nil => rfl
  | cons b rest ih =>
      have hpush : (s.push b).length = s.length + 1 := by
        unfold push
        split <;> rfl
      rw [update, List.foldl_cons, ← update, ih, hpush, List.length_cons]
      omega

end Stream

/-- Bytes that are as many as whole blocks hold can be cut into blocks. -/
theorem exists_blocks {bytes : Bytes} {count : Nat} (h : bytes.length = blockSize * count) :
    ∃ blocks : List Bytes, (∀ block ∈ blocks, block.length = blockSize) ∧ blocks.flatten = bytes := by
  induction count generalizing bytes with
  | zero => exact ⟨[], nofun, (List.length_eq_zero_iff.1 h).symm⟩
  | succ count ih =>
      have hdrop : (bytes.drop blockSize).length = blockSize * count := by
        rw [List.length_drop, h, Nat.mul_succ, Nat.add_sub_cancel]
      have htake : (bytes.take blockSize).length = blockSize := by
        rw [List.length_take, h, Nat.mul_succ]
        omega
      obtain ⟨blocks, hwhole, hflatten⟩ := ih hdrop
      refine ⟨bytes.take blockSize :: blocks, ?_, ?_⟩
      · intro block hblock
        rcases List.mem_cons.1 hblock with rfl | hblock
        · exact htake
        · exact hwhole block hblock
      · rw [List.flatten_cons, hflatten, List.take_append_drop]

/-- **The blocks of a message** as the standard has them: behind the message stand a one bit, as few
zeros as are needed, and the number of its bits in eight bytes. -/
structure Blocks (message : Bytes) (blocks : List Bytes) : Prop where
  whole : ∀ block ∈ blocks, block.length = blockSize
  content : ∃ k < blockSize,
    blocks.flatten = message ++ 0x80 :: (Bytes.zeros k ++ Bytes.bigEndian 8 (8 * message.length))

/-- A message with its padding can be cut into blocks. -/
theorem exists_blocks_of_message (message : Bytes) :
    ∃ blocks, Blocks message blocks ∧
      blocks.flatten = message ++ Stream.padding message.length := by
  have hlength : (message ++ Stream.padding message.length).length =
      blockSize * ((message ++ Stream.padding message.length).length / blockSize) := by
    simp only [Stream.padding, List.length_append, List.length_cons, Bytes.length_zeros,
      Bytes.length_bigEndian, Bytes.shortfall, blockSize]
    omega
  obtain ⟨blocks, hwhole, hflatten⟩ := exists_blocks hlength
  exact ⟨blocks, ⟨hwhole, _, Nat.mod_lt _ (by decide), hflatten⟩, hflatten⟩

/-- **The running hash is the hash of the standard**: the blocks of the message are compressed one
after the other. -/
theorem digest_eq_blocks (message : Bytes) :
    ∃ blocks, Blocks message blocks ∧
      digest message = (blocks.foldl compress Chain.start).toBytes := by
  obtain ⟨blocks, hblocks, hflatten⟩ := exists_blocks_of_message message
  refine ⟨blocks, hblocks, ?_⟩
  have hlength : (Stream.start.update message).length = message.length := by
    rw [Stream.length_update]
    exact Nat.zero_add _
  have hwhole : Stream.start.update blocks.flatten =
      ⟨blocks.foldl compress Chain.start, [], 0, 0 + blockSize * blocks.length⟩ :=
    Stream.update_blocks hblocks.whole Chain.start 0
  rw [digest, Stream.finish, hlength, ← Stream.update_append, ← hflatten, hwhole]

@[simp] theorem Chain.length_toBytes (x : Chain) : x.toBytes.length = 32 := by
  simp [Chain.toBytes]

@[simp] theorem length_digest (message : Bytes) : (digest message).length = 32 :=
  Chain.length_toBytes _

end Bootstrap.Digest.Sha256

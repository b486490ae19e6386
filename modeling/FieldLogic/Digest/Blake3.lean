/-! The BLAKE3 digest of a sequence of bytes. Chunks of 1024 bytes are compressed block by block; more than one chunk
are the leaves of a binary tree whose left subtrees hold the largest power of two of chunks that leaves something
for the right one. -/

namespace FieldLogic.Digest.Blake3

def initial : Vector UInt32 8 :=
  #v[0x6a09e667, 0xbb67ae85, 0x3c6ef372, 0xa54ff53a, 0x510e527f, 0x9b05688c, 0x1f83d9ab, 0x5be0cd19]

/-- From where each message word comes in the next round. -/
def permutation : Vector (Fin 16) 16 := #v[2, 6, 3, 10, 7, 0, 4, 13, 1, 11, 12, 5, 9, 14, 15, 8]

def rotateRight (word count : UInt32) : UInt32 := (word >>> count) ||| (word <<< (32 - count))

def mix (state : Vector UInt32 16) (a b c d : Fin 16) (x y : UInt32) : Vector UInt32 16 :=
  let a1 := state[a] + state[b] + x
  let d1 := rotateRight (state[d] ^^^ a1) 16
  let c1 := state[c] + d1
  let b1 := rotateRight (state[b] ^^^ c1) 12
  let a2 := a1 + b1 + y
  let d2 := rotateRight (d1 ^^^ a2) 8
  let c2 := c1 + d2
  let b2 := rotateRight (b1 ^^^ c2) 7
  (((state.set a a2).set b b2).set c c2).set d d2

/-- A round mixes the columns of the state, then its diagonals. -/
def round (state message : Vector UInt32 16) : Vector UInt32 16 :=
  let state := mix state 0 4 8 12 message[0] message[1]
  let state := mix state 1 5 9 13 message[2] message[3]
  let state := mix state 2 6 10 14 message[4] message[5]
  let state := mix state 3 7 11 15 message[6] message[7]
  let state := mix state 0 5 10 15 message[8] message[9]
  let state := mix state 1 6 11 12 message[10] message[11]
  let state := mix state 2 7 8 13 message[12] message[13]
  mix state 3 4 9 14 message[14] message[15]

def rounds : Nat → Vector UInt32 16 → Vector UInt32 16 → Vector UInt32 16
  | 0, state, _ => state
  | count + 1, state, message => rounds count (round state message) (permutation.map (message[·]))

/-- What a compression works on: the chaining value, a block of 64 bytes as words, the chunk's number, the count of
bytes in the block, and flags. -/
structure Compression where
  chaining : Vector UInt32 8
  block : Vector UInt32 16
  counter : UInt64
  length : UInt32
  flags : UInt32

def chunkStart : UInt32 := 1

def chunkEnd : UInt32 := 2

def parentFlag : UInt32 := 4

def rootFlag : UInt32 := 8

def Compression.output (input : Compression) : Vector UInt32 8 :=
  let start : Vector UInt32 16 :=
    input.chaining ++ #v[initial[0], initial[1], initial[2], initial[3], input.counter.toUInt32,
      (input.counter >>> 32).toUInt32, input.length, input.flags]
  let state := rounds 7 start input.block
  Vector.ofFn fun index : Fin 8 => state[index] ^^^ state[index.val + 8]

/-- A block as sixteen words of four bytes, the lowest first, filled with zeros. -/
def blockWords (bytes : List UInt8) : Vector UInt32 16 :=
  let array := bytes.toArray
  let byte (index : Nat) : UInt32 := (array[index]?.getD 0).toUInt32
  Vector.ofFn fun index : Fin 16 =>
    byte (4 * index) ||| byte (4 * index + 1) <<< 8 ||| byte (4 * index + 2) <<< 16 ||| byte (4 * index + 3) <<< 24

/-- The last compression of a chunk, once the blocks before the last have been compressed. -/
def chunkFrom (counter : UInt64) (chaining : Vector UInt32 8) (start : UInt32) (bytes : List UInt8) : Compression :=
  if 64 < bytes.length then
    let block : Compression := ⟨chaining, blockWords (bytes.take 64), counter, 64, start⟩
    chunkFrom counter block.output 0 (bytes.drop 64)
  else ⟨chaining, blockWords bytes, counter, bytes.length.toUInt32, start ||| chunkEnd⟩
termination_by bytes.length
decreasing_by simp only [List.length_drop]; omega

def parent (left right : Vector UInt32 8) : Compression := ⟨initial, left ++ right, 0, 64, parentFlag⟩

/-- The bytes in the left subtree: the largest power of two of chunks that leaves something over. -/
def leftLength (length : Nat) : Nat := 1024 <<< ((length - 1) / 1024).log2

theorem leftLength_pos (length : Nat) : 0 < leftLength length := by
  rw [leftLength, Nat.shiftLeft_eq]
  exact Nat.mul_pos (by decide) (Nat.two_pow_pos _)

theorem leftLength_lt {length : Nat} (several : 1024 < length) : leftLength length < length := by
  have nonzero : (length - 1) / 1024 ≠ 0 := by omega
  have := Nat.log2_self_le nonzero
  rw [leftLength, Nat.shiftLeft_eq]
  omega

/-- The last compression of the tree over some bytes, of which the first belongs to a numbered chunk. -/
def tree (chunk : Nat) (bytes : List UInt8) : Compression :=
  if _several : 1024 < bytes.length then
    let middle := leftLength bytes.length
    parent (tree chunk (bytes.take middle)).output (tree (chunk + middle / 1024) (bytes.drop middle)).output
  else chunkFrom chunk.toUInt64 initial chunkStart bytes
termination_by bytes.length
decreasing_by
  · have := leftLength_lt _several
    simp only [List.length_take]
    omega
  · have := leftLength_pos bytes.length
    simp only [List.length_drop]
    omega

def wordBytes (word : UInt32) : List UInt8 :=
  [word.toUInt8, (word >>> 8).toUInt8, (word >>> 16).toUInt8, (word >>> 24).toUInt8]

def digest (bytes : List UInt8) : List UInt8 :=
  let last := tree 0 bytes
  let root : Compression := { last with flags := last.flags ||| rootFlag }
  root.output.toList.flatMap wordBytes

end FieldLogic.Digest.Blake3

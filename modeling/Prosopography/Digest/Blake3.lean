/-!
# BLAKE3

The plain 32-byte hash. A text is cut into chunks of 1024 bytes, a chunk into
blocks of 64. Chunks are the leaves of a binary tree in which every left subtree
is full; the hash is the chaining value of the root.
-/

namespace Prosopography.Blake3

/-- The state that is passed from block to block. -/
abbrev Chain := Vector UInt32 8

/-- Sixteen words, which are hashed at a time. -/
abbrev Block := Vector UInt32 16

/-- The words that every chain starts with. -/
def startChain : Chain :=
  #v[0x6A09E667, 0xBB67AE85, 0x3C6EF372, 0xA54FF53A, 0x510E527F, 0x9B05688C, 0x1F83D9AB,
    0x5BE0CD19]

/-- Where each word of a block comes from in the next round. -/
def permutation : Vector (Fin 16) 16 := #v[2, 6, 3, 10, 7, 0, 4, 13, 1, 11, 12, 5, 9, 14, 15, 8]

/-- The words of a block as the next round takes them. -/
def permute (b : Block) : Block := permutation.map fun i => b[i]

/-- The bits of a word moved to the right, those at its end to the front. -/
def rotateRight (x n : UInt32) : UInt32 := (x >>> n) ||| (x <<< (32 - n))

/-- Mixes two words of a block into a column or diagonal of the state. -/
def mix (s : Block) (a b c d : Fin 16) (x y : UInt32) : Block :=
  let s := s.set a (s[a] + s[b] + x)
  let s := s.set d (rotateRight (s[d] ^^^ s[a]) 16)
  let s := s.set c (s[c] + s[d])
  let s := s.set b (rotateRight (s[b] ^^^ s[c]) 12)
  let s := s.set a (s[a] + s[b] + y)
  let s := s.set d (rotateRight (s[d] ^^^ s[a]) 8)
  let s := s.set c (s[c] + s[d])
  s.set b (rotateRight (s[b] ^^^ s[c]) 7)

/-- One round: the four columns, then the four diagonals. -/
def round (s m : Block) : Block :=
  let s := mix s 0 4 8 12 m[0] m[1]
  let s := mix s 1 5 9 13 m[2] m[3]
  let s := mix s 2 6 10 14 m[4] m[5]
  let s := mix s 3 7 11 15 m[6] m[7]
  let s := mix s 0 5 10 15 m[8] m[9]
  let s := mix s 1 6 11 12 m[10] m[11]
  let s := mix s 2 7 8 13 m[12] m[13]
  mix s 3 4 9 14 m[14] m[15]

/-- Some rounds over a state, each with the words of the block permuted once more. -/
def rounds : Nat → Block → Block → Block
  | 0, s, _ => s
  | n + 1, s, m => rounds n (round s m) (permute m)

/-- The last input of a chunk or of a pair of subtrees. -/
structure Node where
  chain : Chain
  block : Block
  counter : Nat
  length : Nat
  flags : UInt32

/-- Marks the first block of a chunk. -/
def chunkStart : UInt32 := 1

/-- Marks the last block of a chunk. -/
def chunkEnd : UInt32 := 2

/-- Marks a node with two nodes below it. -/
def parent : UInt32 := 4

/-- Marks the last node to be hashed. -/
def root : UInt32 := 8

/-- The chaining value of a node, with further flags. -/
def Node.compress (n : Node) (flags : UInt32) : Chain :=
  let start : Block := n.chain ++ #v[0x6A09E667, 0xBB67AE85, 0x3C6EF372, 0xA54FF53A,
    n.counter.toUInt32, (n.counter >>> 32).toUInt32, n.length.toUInt32, n.flags ||| flags]
  let s := rounds 7 start n.block
  .ofFn fun i => s[i.val] ^^^ s[i.val + 8]

/-- Four bytes, the lowest first. -/
def wordAt (bytes : Array UInt8) (i : Nat) : UInt32 :=
  let byte (j : Nat) : UInt32 := (bytes.getD (4 * i + j) 0).toUInt32
  byte 0 ||| (byte 1 <<< 8) ||| (byte 2 <<< 16) ||| (byte 3 <<< 24)

/-- At most 64 bytes, with zeros up to the full size. -/
def blockOf (bytes : List UInt8) : Block :=
  let a := bytes.toArray
  .ofFn fun i => wordAt a i

/-- The last block of a chunk, after its other blocks. -/
def chunkFrom (counter : Nat) (chain : Chain) (flags : UInt32) (bytes : List UInt8) : Node :=
  if 64 < bytes.length then
    let n : Node := ⟨chain, blockOf (bytes.take 64), counter, 64, flags⟩
    chunkFrom counter (n.compress 0) 0 (bytes.drop 64)
  else ⟨chain, blockOf bytes, counter, bytes.length, flags ||| chunkEnd⟩
termination_by bytes.length

/-- The size of the left subtree: the greatest power of two below the size of the tree. -/
def leftSize (size : Nat) : Nat := 1 <<< Nat.log2 (size - 1)

/-- The left part of a split is shorter than the whole, so that the tree is finite. -/
theorem leftSize_lt {size : Nat} (h : 1 < size) : leftSize size < size := by
  have : 2 ^ (size - 1).log2 ≤ size - 1 := Nat.log2_self_le (by omega)
  rw [leftSize, Nat.one_shiftLeft]
  omega

theorem leftSize_pos (size : Nat) : 0 < leftSize size := by
  rw [leftSize, Nat.one_shiftLeft]
  exact Nat.two_pow_pos _

/-- The tree over some bytes, of which `counter` chunks come before. -/
def tree (counter : Nat) (bytes : List UInt8) : Node :=
  if 1024 < bytes.length then
    let n := leftSize bytes.length
    let left := tree counter (bytes.take n)
    let right := tree (counter + n / 1024) (bytes.drop n)
    ⟨startChain, left.compress 0 ++ right.compress 0, 0, 64, parent⟩
  else chunkFrom counter startChain chunkStart bytes
termination_by bytes.length
decreasing_by
  · have : leftSize bytes.length < bytes.length := leftSize_lt (by omega)
    simp only [List.length_take]
    omega
  · have := leftSize_pos bytes.length
    simp only [List.length_drop]
    omega

/-- The bytes of a word, the lowest first. -/
def wordBytes (w : UInt32) : List UInt8 :=
  [w.toUInt8, (w >>> 8).toUInt8, (w >>> 16).toUInt8, (w >>> 24).toUInt8]

/-- The hash of some bytes, in 32 bytes. -/
def hash (bytes : List UInt8) : List UInt8 :=
  ((tree 0 bytes).compress root).toList.flatMap wordBytes

/-- Two lower-case hexadecimal digits for each byte. -/
def hex (bytes : List UInt8) : String :=
  String.ofList (bytes.flatMap fun b =>
    [Nat.digitChar (b.toNat / 16), Nat.digitChar (b.toNat % 16)])

end Prosopography.Blake3

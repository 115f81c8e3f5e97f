/-
The BLAKE3 digest: thirty-two bytes at the root of a binary tree whose leaves
are the chunks of the message, 1024 bytes each. Every left subtree is full and
at least as large as the right one beside it.
-/

import ArtifactCatalog.Digest.Words

namespace ArtifactCatalog.Digest.Blake3

/-- Eight words that stand for a part of the message. -/
abbrev Chain := Vector UInt32 8

abbrev Words := Vector UInt32 16

def start : Chain :=
  #v[0x6a09e667, 0xbb67ae85, 0x3c6ef372, 0xa54ff53a,
    0x510e527f, 0x9b05688c, 0x1f83d9ab, 0x5be0cd19]

def blockSize : Nat := 64

def chunkSize : Nat := 1024

/-! ### Compression -/

/-- The marks of the first and the last block of a chunk, of an inner node, and
of the root. -/
def firstBlock : UInt32 := 1

def lastBlock : UInt32 := 2

def innerNode : UInt32 := 4

def rootNode : UInt32 := 8

def mix (s : Words) (a b c d : Fin 16) (x y : UInt32) : Words :=
  let va := s[a] + s[b] + x
  let vd := rotateRight (s[d] ^^^ va) 16
  let vc := s[c] + vd
  let vb := rotateRight (s[b] ^^^ vc) 12
  let va := va + vb + y
  let vd := rotateRight (vd ^^^ va) 8
  let vc := vc + vd
  let vb := rotateRight (vb ^^^ vc) 7
  (((s.set a va).set b vb).set c vc).set d vd

def runRound (s m : Words) : Words :=
  let s := mix s 0 4 8 12 m[0] m[1]
  let s := mix s 1 5 9 13 m[2] m[3]
  let s := mix s 2 6 10 14 m[4] m[5]
  let s := mix s 3 7 11 15 m[6] m[7]
  let s := mix s 0 5 10 15 m[8] m[9]
  let s := mix s 1 6 11 12 m[10] m[11]
  let s := mix s 2 7 8 13 m[12] m[13]
  mix s 3 4 9 14 m[14] m[15]

def reorder (m : Words) : Words :=
  #v[m[2], m[6], m[3], m[10], m[7], m[0], m[4], m[13],
    m[1], m[11], m[12], m[5], m[9], m[14], m[15], m[8]]

def runRounds : Nat → Words → Words → Words
  | 0, s, _ => s
  | rounds + 1, s, m => runRounds rounds (runRound s m) (reorder m)

/-- What is compressed to make a chain: a chain so far, a block with its length,
the number of its chunk, and marks. -/
structure Node where
  chain : Chain
  block : Words
  counter : UInt64
  length : UInt32
  marks : UInt32

def Node.compress (node : Node) : Chain :=
  let v := node.chain
  let s : Words :=
    #v[v[0], v[1], v[2], v[3], v[4], v[5], v[6], v[7],
      start[0], start[1], start[2], start[3],
      node.counter.toUInt32, (node.counter >>> 32).toUInt32, node.length, node.marks]
  let t := runRounds 7 s node.block
  Vector.ofFn fun i =>
    t.get ⟨i.val, by omega⟩ ^^^ t.get ⟨i.val + 8, by omega⟩

/-! ### Chunks -/

def blockWords (bytes : List UInt8) : Words :=
  let words := littleWords bytes
  Vector.ofFn fun i => words.getD i.val 0

/-- The node of the last block of a chunk, after all blocks before it. -/
def chunkNode (counter : UInt64) (chain : Chain) (marks : UInt32) (bytes : List UInt8) : Node :=
  if bytes.length ≤ blockSize then
    { chain, block := blockWords bytes, counter, length := UInt32.ofNat bytes.length
      marks := marks ||| lastBlock }
  else
    let node : Node :=
      { chain, block := blockWords (bytes.take blockSize), counter
        length := UInt32.ofNat blockSize, marks }
    chunkNode counter node.compress 0 (bytes.drop blockSize)
termination_by bytes.length
decreasing_by
  simp only [List.length_drop, blockSize] at *
  omega

/-! ### The tree -/

/-- The size of the left part of a message of more than one chunk: the largest
power of two of whole chunks that leaves something for the right part. -/
def leftSize (length : Nat) : Nat := chunkSize * Nat.pow 2 (Nat.log2 ((length - 1) / chunkSize))

theorem leftSize_lt {length : Nat} (large : chunkSize < length) : leftSize length < length := by
  have nonzero : (length - 1) / chunkSize ≠ 0 := by
    simp only [chunkSize] at *
    omega
  have bound : Nat.pow 2 (Nat.log2 ((length - 1) / chunkSize)) ≤ (length - 1) / chunkSize :=
    Nat.log2_self_le nonzero
  have scaled := Nat.mul_le_mul_left chunkSize bound
  have whole := Nat.mul_div_le (length - 1) chunkSize
  unfold leftSize
  simp only [chunkSize] at *
  omega

theorem leftSize_pos (length : Nat) : 0 < leftSize length :=
  Nat.mul_pos (by decide) (Nat.two_pow_pos _)

def parentNode (left right : Chain) : Node where
  chain := start
  block := left ++ right
  counter := 0
  length := UInt32.ofNat blockSize
  marks := innerNode

/-- The node at the top of the tree over a part of the message that begins with
the chunk numbered `counter`. -/
def treeNode (counter : Nat) (bytes : List UInt8) : Node :=
  if bytes.length ≤ chunkSize then
    chunkNode (UInt64.ofNat counter) start firstBlock bytes
  else
    let size := leftSize bytes.length
    let left := treeNode counter (bytes.take size)
    let right := treeNode (counter + size / chunkSize) (bytes.drop size)
    parentNode left.compress right.compress
termination_by bytes.length
decreasing_by
  · have : leftSize bytes.length < bytes.length := leftSize_lt (by omega)
    simp only [List.length_take]
    omega
  · have := leftSize_pos bytes.length
    have : leftSize bytes.length < bytes.length := leftSize_lt (by omega)
    simp only [List.length_drop]
    omega

def digest (message : List UInt8) : Vector UInt8 32 :=
  let top := treeNode 0 message
  bytesOfLittleWords { top with marks := top.marks ||| rootNode }.compress

end ArtifactCatalog.Digest.Blake3

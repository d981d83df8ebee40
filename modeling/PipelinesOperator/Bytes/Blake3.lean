/-!
# The Blake3 digest

The input is cut into chunks of 1024 bytes, each chunk into blocks of 64, and a block is
compressed with the chaining value of those before it.  The chunks are the leaves of a
binary tree whose left half is the greatest power of two that leaves a right half; a node
compresses the chaining values of its halves.
-/

namespace PipelinesOperator.Blake3

/-- The words of a chaining value. -/
abbrev Chain := Vector UInt32 8

/-- The words of a block. -/
abbrev Words := Vector UInt32 16

/-- The initial chaining value. -/
def initial : Chain :=
  #v[0x6A09E667, 0xBB67AE85, 0x3C6EF372, 0xA54FF53A, 0x510E527F, 0x9B05688C, 0x1F83D9AB,
    0x5BE0CD19]

/-- Where each word of a block comes from in the next round. -/
def schedule : Vector (Fin 16) 16 :=
  #v[2, 6, 3, 10, 7, 0, 4, 13, 1, 11, 12, 5, 9, 14, 15, 8]

/-- The bits of a word turned to the right. -/
def turn (w : UInt32) (n : UInt32) : UInt32 := (w >>> n) ||| (w <<< (32 - n))

/-- Mixes two words of a block into four words of the state. -/
def mix (s : Words) (a b c d : Fin 16) (x y : UInt32) : Words :=
  let va := s[a] + s[b] + x
  let vd := turn (s[d] ^^^ va) 16
  let vc := s[c] + vd
  let vb := turn (s[b] ^^^ vc) 12
  let va := va + vb + y
  let vd := turn (vd ^^^ va) 8
  let vc := vc + vd
  let vb := turn (vb ^^^ vc) 7
  (((s.set a va).set b vb).set c vc).set d vd

/-- Mixes the columns of the state, then its diagonals. -/
def mixAll (s m : Words) : Words :=
  let s := mix s 0 4 8 12 m[0] m[1]
  let s := mix s 1 5 9 13 m[2] m[3]
  let s := mix s 2 6 10 14 m[4] m[5]
  let s := mix s 3 7 11 15 m[6] m[7]
  let s := mix s 0 5 10 15 m[8] m[9]
  let s := mix s 1 6 11 12 m[10] m[11]
  let s := mix s 2 7 8 13 m[12] m[13]
  mix s 3 4 9 14 m[14] m[15]

/-- Some rounds, the words of the block permuted between them. -/
def rounds : Nat → Words → Words → Words
  | 0, s, _ => s
  | n + 1, s, m => rounds n (mixAll s m) (schedule.map fun i => m[i])

/-- A compression that has not been run: its chaining value, its block, the number of its
chunk, the length of the block and what the block stands for. -/
structure Node where
  chain : Chain
  block : Words
  counter : UInt64
  length : UInt32
  flags : UInt32

/-- A block that begins its chunk. -/
def chunkStart : UInt32 := 1

/-- A block that ends its chunk. -/
def chunkEnd : UInt32 := 2

/-- A block that holds two chaining values. -/
def parent : UInt32 := 4

/-- The block whose compression is the digest. -/
def root : UInt32 := 8

/-- Runs a compression. -/
def Node.compress (n : Node) (flags : UInt32) : Chain :=
  let s : Words := #v[n.chain[0], n.chain[1], n.chain[2], n.chain[3], n.chain[4], n.chain[5],
    n.chain[6], n.chain[7], initial[0], initial[1], initial[2], initial[3],
    n.counter.toUInt32, (n.counter >>> 32).toUInt32, n.length, n.flags ||| flags]
  let s := rounds 7 s n.block
  #v[s[0] ^^^ s[8], s[1] ^^^ s[9], s[2] ^^^ s[10], s[3] ^^^ s[11], s[4] ^^^ s[12],
    s[5] ^^^ s[13], s[6] ^^^ s[14], s[7] ^^^ s[15]]

/-- The word at a place of some bytes, the lowest byte first; bytes that are missing are
zero. -/
def word (bytes : Array UInt8) (i : Nat) : UInt32 :=
  (bytes.getD i 0).toUInt32 ||| ((bytes.getD (i + 1) 0).toUInt32 <<< 8) |||
    ((bytes.getD (i + 2) 0).toUInt32 <<< 16) ||| ((bytes.getD (i + 3) 0).toUInt32 <<< 24)

/-- The block of at most 64 bytes. -/
def block (bytes : List UInt8) : Words :=
  let bytes := bytes.toArray
  Vector.ofFn fun i : Fin 16 => word bytes (4 * i.val)

/-- The blocks of a chunk, each of 64 bytes but the last. -/
def blocks (bytes : List UInt8) : List (List UInt8) :=
  (List.range (max 1 ((bytes.length + 63) / 64))).map fun i => (bytes.drop (64 * i)).take 64

/-- The last compression of a chunk, the others run. -/
def chunkNode (counter : Nat) (chain : Chain) (first : Bool) : List (List UInt8) → Node
  | [] => ⟨chain, block [], counter.toUInt64, 0, chunkEnd⟩
  | [last] =>
    ⟨chain, block last, counter.toUInt64, last.length.toUInt32,
      (if first then chunkStart else 0) ||| chunkEnd⟩
  | b :: rest =>
    let node : Node :=
      ⟨chain, block b, counter.toUInt64, b.length.toUInt32, if first then chunkStart else 0⟩
    chunkNode counter (node.compress 0) false rest

/-- How many chunks make the left half of a tree of `n`. -/
def leftSize (n : Nat) : Nat := 1 <<< (n - 1).log2

theorem leftSize_lt {n : Nat} (h : 2 ≤ n) : leftSize n < n := by
  have := Nat.log2_self_le (n := n - 1) (by omega)
  simp only [leftSize, Nat.one_shiftLeft]
  omega

theorem leftSize_pos (n : Nat) : 0 < leftSize n := by
  rw [leftSize, Nat.one_shiftLeft]
  exact Nat.two_pow_pos _

/-- The last compression of the tree over some chunks, the first of which has a number. -/
def treeNode (counter : Nat) (chunks : List (List UInt8)) : Node :=
  if h : chunks.length < 2 then
    chunkNode counter initial true (blocks (chunks.headD []))
  else
    let left := leftSize chunks.length
    have := leftSize_lt (n := chunks.length) (by omega)
    have := leftSize_pos chunks.length
    let l := (treeNode counter (chunks.take left)).compress 0
    let r := (treeNode (counter + left) (chunks.drop left)).compress 0
    ⟨initial, l ++ r, 0, 64, parent⟩
termination_by chunks.length
decreasing_by
  · simp only [List.length_take]; omega
  · simp only [List.length_drop]; omega

/-- The chunks of an input. -/
def chunks (bytes : List UInt8) : List (List UInt8) :=
  (List.range (max 1 ((bytes.length + 1023) / 1024))).map fun i =>
    (bytes.drop (1024 * i)).take 1024

/-- The digest of some bytes. -/
def digest (bytes : List UInt8) : Chain := (treeNode 0 (chunks bytes)).compress root

/-- The two hexadecimal digits of a byte. -/
def hexByte (b : UInt8) : List Char :=
  let digit (n : UInt8) : Char :=
    if n < 10 then Char.ofNat (n.toNat + 48) else Char.ofNat (n.toNat + 87)
  [digit (b / 16), digit (b % 16)]

/-- The bytes of a word, the lowest first. -/
def wordBytes (w : UInt32) : List UInt8 :=
  [w.toUInt8, (w >>> 8).toUInt8, (w >>> 16).toUInt8, (w >>> 24).toUInt8]

/-- The hexadecimal text of the digest of a text. -/
def hexDigest (text : String) : String :=
  String.ofList ((digest text.toUTF8.toList).toList.flatMap fun w => (wordBytes w).flatMap hexByte)

end PipelinesOperator.Blake3

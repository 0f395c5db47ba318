/-!
# BLAKE3

The hash of a byte sequence: chunks of 1024 bytes are compressed block by block, and their chaining
values are joined pairwise in a tree whose left side is as large a full tree as fits.

## Main Definitions

* `Blake3.compress` - the compression function.
* `Blake3.hash` - the 32 bytes of the hash.
* `Blake3.hex` - bytes as digits of base sixteen.
-/

namespace DefectGraph.Blake3

/-- Words of 32 bits. -/
abbrev Words : Type := Array UInt32

/-- The initial chaining value. -/
def initial : Words :=
  #[0x6A09E667, 0xBB67AE85, 0x3C6EF372, 0xA54FF53A, 0x510E527F, 0x9B05688C, 0x1F83D9AB, 0x5BE0CD19]

/-- The order in which a round reads the words of the round before. -/
def order : List Nat := [2, 6, 3, 10, 7, 0, 4, 13, 1, 11, 12, 5, 9, 14, 15, 8]

/-- The mark of the first block of a chunk. -/
def chunkStart : UInt32 := 1

/-- The mark of the last block of a chunk. -/
def chunkEnd : UInt32 := 2

/-- The mark of a block that joins two chaining values. -/
def joining : UInt32 := 4

/-- The mark of the last block of all. -/
def root : UInt32 := 8

/-- The number of bytes in a block. -/
def blockSize : Nat := 64

/-- The number of bytes in a chunk. -/
def chunkSize : Nat := 1024

/-! ### Compression -/

/-- The bits of a word moved to the right, those that fall off back in from the left. -/
def rotateRight (w : UInt32) (count : UInt32) : UInt32 :=
  (w >>> count) ||| (w <<< (32 - count))

/-- Mixes two words of a block into four words of the state. -/
def mix (state : Words) (a b c d : Nat) (x y : UInt32) : Words :=
  let va := state.getD a 0 + state.getD b 0 + x
  let vd := rotateRight (state.getD d 0 ^^^ va) 16
  let vc := state.getD c 0 + vd
  let vb := rotateRight (state.getD b 0 ^^^ vc) 12
  let va := va + vb + y
  let vd := rotateRight (vd ^^^ va) 8
  let vc := vc + vd
  let vb := rotateRight (vb ^^^ vc) 7
  (((state.setIfInBounds a va).setIfInBounds b vb).setIfInBounds c vc).setIfInBounds d vd

/-- The places in the state that a round mixes, columns first, then diagonals. -/
def places : List (Nat × Nat × Nat × Nat) :=
  [(0, 4, 8, 12), (1, 5, 9, 13), (2, 6, 10, 14), (3, 7, 11, 15),
   (0, 5, 10, 15), (1, 6, 11, 12), (2, 7, 8, 13), (3, 4, 9, 14)]

/-- Mixes a block into the state. -/
def mixBlock (block : Words) (state : Words) : Words :=
  (places.zipIdx).foldl
    (fun state ((a, b, c, d), i) => mix state a b c d (block.getD (2 * i) 0) (block.getD (2 * i + 1) 0))
    state

/-- The words of a block in the order of the next round. -/
def reorder (block : Words) : Words :=
  (order.map fun i => block.getD i 0).toArray

/-- Mixes a block into the state for a number of rounds. -/
def rounds : Nat → Words → Words → Words
  | 0, _, state => state
  | n + 1, block, state => rounds n (reorder block) (mixBlock block state)

/-- A block with what the compression function takes besides. -/
structure Input where
  chaining : Words
  block : Words
  counter : Nat
  length : Nat
  marks : UInt32

/-- The compression function: the sixteen words after seven rounds. -/
def compress (input : Input) : Words :=
  let state := input.chaining ++ initial.take 4 ++
    #[input.counter.toUInt32, (input.counter / 4294967296).toUInt32, input.length.toUInt32, input.marks]
  let mixed := rounds 7 input.block state
  let low := (List.range 8).map fun i => mixed.getD i 0 ^^^ mixed.getD (i + 8) 0
  let high := (List.range 8).map fun i => mixed.getD (i + 8) 0 ^^^ input.chaining.getD i 0
  (low ++ high).toArray

/-- The chaining value after a block. -/
def chainingValue (input : Input) : Words := (compress input).take 8

/-! ### Chunks -/

/-- The word of four bytes, the least significant one first. -/
def word (bytes : List UInt8) : UInt32 :=
  bytes.foldr (fun b w => w * 256 + b.toUInt32) 0

/-- Cuts a list into pieces of a size, for a number of rounds at most; the last piece may be shorter. -/
def piecesFor {α : Type} (size : Nat) : Nat → List α → List (List α)
  | 0, _ => []
  | n + 1, xs => if xs.length ≤ size then [xs] else xs.take size :: piecesFor size n (xs.drop size)

/-- Cuts a list into pieces of a size; an empty list is one empty piece. -/
def pieces {α : Type} (size : Nat) (xs : List α) : List (List α) :=
  piecesFor size (xs.length + 1) xs

/-- The words of a block, filled up with zeros. -/
def blockWords (bytes : List UInt8) : Words :=
  let padded := bytes ++ List.replicate (blockSize - bytes.length) 0
  ((pieces 4 padded).map word).toArray

/-- The last block of a chunk, with the chaining value of the blocks before it. -/
def lastBlock (counter : Nat) (chaining : Words) (marks : UInt32) : List (List UInt8) → Input
  | [] => ⟨chaining, blockWords [], counter, 0, marks ||| chunkEnd⟩
  | [block] => ⟨chaining, blockWords block, counter, block.length, marks ||| chunkEnd⟩
  | block :: rest =>
    let input : Input := ⟨chaining, blockWords block, counter, block.length, marks⟩
    lastBlock counter (chainingValue input) 0 rest

/-- The last block of a chunk of the given number. -/
def chunk (counter : Nat) (bytes : List UInt8) : Input :=
  lastBlock counter initial chunkStart (pieces blockSize bytes)

/-! ### The tree -/

/-- The block that joins two chaining values. -/
def join (left right : Words) : Input :=
  ⟨initial, left ++ right, 0, blockSize, joining⟩

/-- The number of chunks on the left side of a tree: the largest power of two below the count. -/
def leftSize (count : Nat) : Nat := Nat.pow 2 (count - 1).log2

/-- The last block of a tree over chunks, of which the given number come before it. The depth bounds the
height of the tree. -/
def tree (depth before : Nat) (chunks : List (List UInt8)) : Input :=
  match depth, chunks with
  | _, [] => chunk before []
  | _, [bytes] => chunk before bytes
  | 0, bytes :: _ => chunk before bytes
  | depth + 1, chunks =>
    let left := leftSize chunks.length
    join (chainingValue (tree depth before (chunks.take left)))
      (chainingValue (tree depth (before + left) (chunks.drop left)))

/-- The bytes of a word, the least significant one first. -/
def wordBytes (w : UInt32) : List UInt8 :=
  [w.toUInt8, (w >>> 8).toUInt8, (w >>> 16).toUInt8, (w >>> 24).toUInt8]

/-- The hash of a byte sequence. -/
def hash (bytes : List UInt8) : List UInt8 :=
  let chunks := pieces chunkSize bytes
  let last := tree chunks.length 0 chunks
  let words := compress { last with marks := last.marks ||| root }
  (words.take 8).toList.flatMap wordBytes

/-- A digit of base sixteen. -/
def hexDigit (n : Nat) : Char :=
  if n < 10 then Char.ofNat ('0'.toNat + n) else Char.ofNat ('a'.toNat + n - 10)

/-- Bytes as digits of base sixteen. -/
def hex (bytes : List UInt8) : String :=
  String.ofList (bytes.flatMap fun b => [hexDigit (b.toNat / 16), hexDigit (b.toNat % 16)])

end DefectGraph.Blake3

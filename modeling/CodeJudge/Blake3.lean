/-!
The BLAKE3 digest of a byte string. The input is cut into chunks of 1024 bytes, each chunk into
blocks of 64; chunks are the leaves of a binary tree whose root gives the digest.
-/
namespace CodeJudge.Blake3

/-- Sixteen words, either a state or a block. -/
abbrev Words := Array UInt32

def initialValue : Words := #[
  0x6A09E667, 0xBB67AE85, 0x3C6EF372, 0xA54FF53A, 0x510E527F, 0x9B05688C, 0x1F83D9AB, 0x5BE0CD19]

/-- Where each word of the next round's block comes from. -/
def permutation : List Nat := [2, 6, 3, 10, 7, 0, 4, 13, 1, 11, 12, 5, 9, 14, 15, 8]

def rotateRight (w n : UInt32) : UInt32 := (w >>> n) ||| (w <<< (32 - n))

/-- Mixes two words of a block into four words of a state. -/
def mix (v : Words) (a b c d : Nat) (x y : UInt32) : Words :=
  let va := v.getD a 0 + v.getD b 0 + x
  let vd := rotateRight (v.getD d 0 ^^^ va) 16
  let vc := v.getD c 0 + vd
  let vb := rotateRight (v.getD b 0 ^^^ vc) 12
  let va := va + vb + y
  let vd := rotateRight (vd ^^^ va) 8
  let vc := vc + vd
  let vb := rotateRight (vb ^^^ vc) 7
  (((v.setIfInBounds a va).setIfInBounds b vb).setIfInBounds c vc).setIfInBounds d vd

/-- The four words that each step of a round mixes: the columns, then the diagonals. -/
def steps : List (Nat × Nat × Nat × Nat) :=
  [(0, 4, 8, 12), (1, 5, 9, 13), (2, 6, 10, 14), (3, 7, 11, 15),
    (0, 5, 10, 15), (1, 6, 11, 12), (2, 7, 8, 13), (3, 4, 9, 14)]

def round (v block : Words) : Words :=
  (steps.foldl (fun (v, i) (a, b, c, d) =>
    (mix v a b c d (block.getD (2 * i) 0) (block.getD (2 * i + 1) 0), i + 1)) (v, 0)).1

/-- The given number of rounds, the block permuted after each. -/
def rounds : Nat → Words → Words → Words
  | 0, v, _ => v
  | n + 1, v, block =>
    rounds n (round v block) (permutation.map fun i => block.getD i 0).toArray

/-- What a node of the tree is compressed from. -/
structure Node where
  chaining : Words
  block : Words
  counter : Nat
  length : Nat
  flags : UInt32

def chunkStart : UInt32 := 1
def chunkEnd : UInt32 := 2
def parentFlag : UInt32 := 4
def rootFlag : UInt32 := 8

/-- The first eight words of a node's compression, with flags added. -/
def Node.compress (n : Node) (flags : UInt32) : Words :=
  let v := n.chaining ++ initialValue.extract 0 4 ++ #[
    UInt32.ofNat (n.counter % UInt32.size), UInt32.ofNat (n.counter / UInt32.size),
    UInt32.ofNat n.length, n.flags ||| flags]
  let v := rounds 7 v n.block
  ((List.range 8).map fun i => v.getD i 0 ^^^ v.getD (i + 8) 0).toArray

/-- A list cut into pieces of `size`, the last one maybe shorter. -/
def pieces {α : Type} (size : Nat) : Nat → List α → List (List α)
  | 0, _ => []
  | _, [] => []
  | bound + 1, xs => xs.take size :: pieces size bound (xs.drop size)

/-- Four bytes as a word, the lowest first. -/
def wordOf (bytes : List UInt8) : UInt32 :=
  bytes.foldr (fun b w => (w <<< 8) ||| b.toUInt32) 0

/-- At most 64 bytes as a block, filled up with zeros. -/
def blockOf (bytes : List UInt8) : Words :=
  ((pieces 4 16 (bytes ++ List.replicate (64 - bytes.length) 0)).map wordOf).toArray

/-- The last block of a chunk as a node, the earlier ones compressed into its chaining value. -/
def chunkNode (counter : Nat) (chaining : Words) (flags : UInt32) : List (List UInt8) → Node
  | [] => ⟨chaining, blockOf [], counter, 0, flags ||| chunkEnd⟩
  | [last] => ⟨chaining, blockOf last, counter, last.length, flags ||| chunkEnd⟩
  | b :: bs =>
    let node : Node := ⟨chaining, blockOf b, counter, b.length, flags⟩
    chunkNode counter (node.compress 0) 0 bs

/-- The leaves of the tree, numbered from `counter`. -/
def leaves (counter : Nat) : List (List UInt8) → List Node
  | [] => []
  | chunk :: rest =>
    chunkNode counter initialValue chunkStart (pieces 64 16 chunk) :: leaves (counter + 1) rest

def parent (left right : Node) : Node :=
  ⟨initialValue, left.compress 0 ++ right.compress 0, 0, 64, parentFlag⟩

/-- Neighbours joined in pairs; one without a partner stays. -/
def joinPairs : List Node → List Node
  | left :: right :: rest => parent left right :: joinPairs rest
  | nodes => nodes

/-- The root of a tree over the given nodes, after at most `bound` levels. -/
def rootOf : Nat → List Node → Node
  | bound + 1, a :: b :: rest => rootOf bound (joinPairs (a :: b :: rest))
  | _, node :: _ => node
  | _, [] => chunkNode 0 initialValue chunkStart []

/-- The 32 bytes of the digest, as words. -/
def digest (bytes : List UInt8) : Words :=
  let nodes := leaves 0 (pieces 1024 bytes.length bytes)
  (rootOf nodes.length nodes).compress rootFlag

/-- One byte in base sixteen, in two small digits. -/
def hexByte (b : UInt8) : List Char :=
  let ds := Nat.toDigits 16 b.toNat
  List.replicate (2 - ds.length) '0' ++ ds

/-- The digest of a text in UTF-8, in base sixteen. -/
def hexDigest (s : String) : String :=
  String.ofList ((digest s.toUTF8.toList).toList.flatMap fun w : UInt32 =>
    [w, w >>> 8, w >>> 16, w >>> 24].flatMap fun part => hexByte part.toUInt8)

end CodeJudge.Blake3

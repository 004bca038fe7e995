import TemplateBatch.Bytes

/-!
The BLAKE3 hash with 256 bits of output. The input is cut into chunks of 1024 octets and these into
blocks of 64; the chaining values of the chunks are the leaves of a binary tree whose left subtrees
are complete and as large as possible.
-/
namespace TemplateBatch.Blake3

abbrev Words := List UInt32

def initial : Words :=
  [0x6A09E667, 0xBB67AE85, 0x3C6EF372, 0xA54FF53A, 0x510E527F, 0x9B05688C, 0x1F83D9AB, 0x5BE0CD19]

def chunkStart : UInt32 := 1
def chunkEnd : UInt32 := 2
def parentNode : UInt32 := 4
def rootNode : UInt32 := 8

def rotateRight (w n : UInt32) : UInt32 := (w >>> n) ||| (w <<< (32 - n))

/-- One quarter of a round: four words of the state take in two words of the message. -/
def mix (s : Array UInt32) (a b c d : Nat) (x y : UInt32) : Array UInt32 :=
  let va := s.getD a 0 + s.getD b 0 + x
  let vd := rotateRight (s.getD d 0 ^^^ va) 16
  let vc := s.getD c 0 + vd
  let vb := rotateRight (s.getD b 0 ^^^ vc) 12
  let va := va + vb + y
  let vd := rotateRight (vd ^^^ va) 8
  let vc := vc + vd
  let vb := rotateRight (vb ^^^ vc) 7
  (((s.setIfInBounds a va).setIfInBounds b vb).setIfInBounds c vc).setIfInBounds d vd

/-- The words mixed by a round: its columns first and its diagonals after them. -/
def quarters : List (Nat × Nat × Nat × Nat) :=
  [(0, 4, 8, 12), (1, 5, 9, 13), (2, 6, 10, 14), (3, 7, 11, 15),
    (0, 5, 10, 15), (1, 6, 11, 12), (2, 7, 8, 13), (3, 4, 9, 14)]

def round (s m : Array UInt32) : Array UInt32 :=
  quarters.zipIdx.foldl
    (fun s q =>
      mix s q.1.1 q.1.2.1 q.1.2.2.1 q.1.2.2.2 (m.getD (2 * q.2) 0) (m.getD (2 * q.2 + 1) 0)) s

def schedule : List Nat := [2, 6, 3, 10, 7, 0, 4, 13, 1, 11, 12, 5, 9, 14, 15, 8]

def permute (m : Array UInt32) : Array UInt32 := (schedule.map fun i => m.getD i 0).toArray

def rounds : Nat → Array UInt32 → Array UInt32 → Array UInt32
  | 0, s, _ => s
  | n + 1, s, m => rounds n (round s m) (permute m)

/-- The chaining value after a block of `length` octets, message words given in `block`. -/
def compress (chain : Words) (block : Array UInt32) (counter length : Nat) (flags : UInt32) :
    Words :=
  let counterWords := [UInt32.ofNat counter, UInt32.ofNat (counter / 4294967296)]
  let state := chain ++ initial.take 4 ++ counterWords ++ [UInt32.ofNat length, flags]
  let mixed := (rounds 7 state.toArray block).toList
  (mixed.take 8).zipWith (· ^^^ ·) (mixed.drop 8)

def word (b : Bytes) : UInt32 :=
  b.foldr (fun octet w => w * 256 + octet.toNat.toUInt32) 0

def blockWordsFrom : Nat → Bytes → Words
  | 0, _ => []
  | n + 1, b => word (b.take 4) :: blockWordsFrom n (b.drop 4)

/-- Sixteen little-endian words; a short block is filled with zeros. -/
def blockWords (b : Bytes) : Array UInt32 := (blockWordsFrom 16 b).toArray

/-- A node of the tree before it is known whether it is the root. -/
structure Output where
  chain : Words
  block : Array UInt32
  counter : Nat
  length : Nat
  flags : UInt32

def Output.chaining (o : Output) (extra : UInt32) : Words :=
  compress o.chain o.block o.counter o.length (o.flags ||| extra)

/-- The last node of a chunk, its blocks absorbed in order; at most `fuel` blocks come before it. -/
def chunkFrom (counter : Nat) : (fuel : Nat) → (chain : Words) → (first : UInt32) → Bytes → Output
  | 0, chain, first, b => ⟨chain, blockWords b, counter, b.length, first ||| chunkEnd⟩
  | fuel + 1, chain, first, b =>
    let rest := b.drop 64
    if rest.isEmpty then ⟨chain, blockWords b, counter, b.length, first ||| chunkEnd⟩
    else
      chunkFrom counter fuel (compress chain (blockWords (b.take 64)) counter 64 first) 0 rest

def chunk (counter : Nat) (b : Bytes) : Output := chunkFrom counter 15 initial chunkStart b

def parent (left right : Words) : Output :=
  ⟨initial, (left ++ right).toArray, 0, 64, parentNode⟩

/-- The greatest power of two below `n`, for `n` of at least two. -/
def leftSize (n : Nat) : Nat := Nat.pow 2 (n - 1).log2

/-- The node over a run of chunks of which the first is number `counter`. -/
def tree : (fuel : Nat) → (counter : Nat) → List Bytes → Output
  | 0, counter, cs => chunk counter (cs.headD [])
  | _ + 1, counter, [] => chunk counter []
  | _ + 1, counter, [c] => chunk counter c
  | fuel + 1, counter, cs =>
    let n := leftSize cs.length
    parent ((tree fuel counter (cs.take n)).chaining 0)
      ((tree fuel (counter + n) (cs.drop n)).chaining 0)

def chunksFrom : (fuel : Nat) → Bytes → List Bytes
  | 0, b => [b]
  | fuel + 1, b =>
    let rest := b.drop 1024
    if rest.isEmpty then [b] else b.take 1024 :: chunksFrom fuel rest

def chunks (b : Bytes) : List Bytes := chunksFrom (b.length / 1024) b

def wordOctets (w : UInt32) : Bytes :=
  [w.toUInt8, (w >>> 8).toUInt8, (w >>> 16).toUInt8, (w >>> 24).toUInt8]

/-- The 32 octets of the hash. -/
def hash (b : Bytes) : Bytes :=
  let cs := chunks b
  ((tree cs.length 0 cs).chaining rootNode).flatMap wordOctets

end TemplateBatch.Blake3

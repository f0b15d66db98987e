/-
# The hash blake3

A text of bytes is cut into chunks of 1024 bytes and those into blocks of 64.
Blocks are compressed one after another within a chunk, and the chunks are joined
two by two in a binary tree whose left half is always a full one.

| flag | set for |
| --- | --- |
| 1, 2 | the first and the last block of a chunk |
| 4 | a node that joins two others |
| 8 | the node at the top |

`fingerprint` is the head of the hash in hexadecimal digits.
-/

namespace LintWorkspace
namespace Blake3

/-- The sixteen words that one compression works on. -/
abbrev Words := Vector UInt32 16

/-- The words that every chain starts from. -/
def start : Vector UInt32 8 :=
  #v[0x6A09E667, 0xBB67AE85, 0x3C6EF372, 0xA54FF53A, 0x510E527F, 0x9B05688C, 0x1F83D9AB,
    0x5BE0CD19]

/-- Where each word of the message comes from in the next round. -/
def schedule : Vector (Fin 16) 16 := #v[2, 6, 3, 10, 7, 0, 4, 13, 1, 11, 12, 5, 9, 14, 15, 8]

/-- A word rotated to the right. -/
def rotate (x : UInt32) (n : UInt32) : UInt32 := (x >>> n) ||| (x <<< (32 - n))

/-- Mixes two message words into a column or a diagonal of the state. -/
def mix (v : Words) (a b c d : Fin 16) (x y : UInt32) : Words :=
  let v := v.set a (v[a] + v[b] + x)
  let v := v.set d (rotate (v[d] ^^^ v[a]) 16)
  let v := v.set c (v[c] + v[d])
  let v := v.set b (rotate (v[b] ^^^ v[c]) 12)
  let v := v.set a (v[a] + v[b] + y)
  let v := v.set d (rotate (v[d] ^^^ v[a]) 8)
  let v := v.set c (v[c] + v[d])
  v.set b (rotate (v[b] ^^^ v[c]) 7)

/-- One round: the four columns, then the four diagonals. -/
def round (v m : Words) : Words :=
  let v := mix v 0 4 8 12 m[0] m[1]
  let v := mix v 1 5 9 13 m[2] m[3]
  let v := mix v 2 6 10 14 m[4] m[5]
  let v := mix v 3 7 11 15 m[6] m[7]
  let v := mix v 0 5 10 15 m[8] m[9]
  let v := mix v 1 6 11 12 m[10] m[11]
  let v := mix v 2 7 8 13 m[12] m[13]
  mix v 3 4 9 14 m[14] m[15]

/-- So many rounds, each on the words of the message in the next order. -/
def rounds : Nat → Words → Words → Words
  | 0, v, _ => v
  | n + 1, v, m => rounds n (round v m) (schedule.map fun i => m[i])

/-- What one compression is given. -/
structure Block where
  chain : Vector UInt32 8
  message : Words
  counter : Nat
  length : Nat
  flags : UInt32

/-- Compresses a block to the words of the next chain. -/
def Block.compress (b : Block) : Vector UInt32 8 :=
  let v : Words := #v[b.chain[0], b.chain[1], b.chain[2], b.chain[3], b.chain[4], b.chain[5],
    b.chain[6], b.chain[7], start[0], start[1], start[2], start[3],
    UInt32.ofNat b.counter, UInt32.ofNat (b.counter / Nat.pow 2 32), UInt32.ofNat b.length, b.flags]
  let v := rounds 7 v b.message
  #v[v[0] ^^^ v[8], v[1] ^^^ v[9], v[2] ^^^ v[10], v[3] ^^^ v[11], v[4] ^^^ v[12],
    v[5] ^^^ v[13], v[6] ^^^ v[14], v[7] ^^^ v[15]]

/-- The word at a place in the bytes, the least byte first; zero beyond their end. -/
def wordAt (bytes : ByteArray) (place : Nat) : UInt32 :=
  let byte (i : Nat) : UInt32 := (bytes[place + i]?.getD 0).toUInt32
  byte 0 ||| (byte 1 <<< 8) ||| (byte 2 <<< 16) ||| (byte 3 <<< 24)

/-- The message of the block at a place. -/
def messageAt (bytes : ByteArray) (place : Nat) : Words :=
  Vector.ofFn fun i => wordAt bytes (place + 4 * i)

/-- The last block of a chunk that ends before `stop`, from the block at `place` on; the
number counts the blocks that follow it. -/
def chunkFrom (bytes : ByteArray) (counter stop : Nat) (first : UInt32) :
    Nat → Vector UInt32 8 → Nat → Block
  | 0, chain, place => ⟨chain, messageAt bytes place, counter, stop - place, first ||| 2⟩
  | n + 1, chain, place =>
    let block : Block := ⟨chain, messageAt bytes place, counter, 64, first⟩
    chunkFrom bytes counter stop 0 n block.compress (place + 64)

/-- The last block of a chunk. -/
def chunk (bytes : ByteArray) (counter : Nat) : Block :=
  let stop := min bytes.size (1024 * (counter + 1))
  chunkFrom bytes counter stop 1 ((stop - 1024 * counter - 1) / 64) start (1024 * counter)

/-- The block that joins two others. -/
def join (left right : Block) : Block :=
  let l := left.compress
  let r := right.compress
  ⟨start, #v[l[0], l[1], l[2], l[3], l[4], l[5], l[6], l[7], r[0], r[1], r[2], r[3], r[4], r[5],
    r[6], r[7]], 0, 64, 4⟩

/-- The top of the tree over a list of blocks.  The number bounds its depth. -/
def tree : Nat → List Block → Block
  | 0, _ => ⟨start, Vector.replicate 16 0, 0, 0, 0⟩
  | _ + 1, [b] => b
  | n + 1, bs =>
    let full := Nat.pow 2 (bs.length - 1).log2
    join (tree n (bs.take full)) (tree n (bs.drop full))

/-- The first eight words of the hash. -/
def hash (bytes : ByteArray) : Vector UInt32 8 :=
  let count := max 1 ((bytes.size + 1023) / 1024)
  let top := tree count ((List.range count).map (chunk bytes))
  { top with flags := top.flags ||| 8 }.compress

/-- The two hexadecimal digits of a byte. -/
def hexByte (n : Nat) : List Char := [Nat.digitChar (n / 16), Nat.digitChar (n % 16)]

/-- The eight hexadecimal digits of a word, the least byte first. -/
def hexWord (w : UInt32) : List Char :=
  let n := w.toNat
  hexByte (n % 256) ++ hexByte (n / 256 % 256) ++ hexByte (n / 65536 % 256) ++
    hexByte (n / 16777216)

/-- The first sixteen hexadecimal digits of the hash. -/
def fingerprint (bytes : ByteArray) : String :=
  let h := hash bytes
  String.ofList (hexWord h[0] ++ hexWord h[1])

end Blake3
end LintWorkspace

import GoTor.Lib.Bytes
import Mathlib.Logic.Equiv.Defs

/-!
# Blocks, block ciphers and counter mode

A block cipher of block length 16 under one key is a permutation of blocks, so a cipher is a
function from keys to permutations; nothing else about it is used.  Counter mode turns it
into a key stream, and a stream position is all the state an encrypting party keeps.
-/

namespace GoTor.Lib

abbrev Block := Vector UInt8 16

namespace Block

/-- Copy a byte string into a zeroed block: missing bytes stay zero, further bytes are
ignored. -/
def copyOf (b : Bytes) : Block := Vector.ofFn fun i => b.getD i 0

def xor (a b : Block) : Block := Vector.zipWith (· ^^^ ·) a b

@[simp] lemma length_toList (a : Block) : a.toList.length = 16 := by simp

@[simp] lemma copyOf_append (a : Block) (rest : Bytes) : copyOf (a.toList ++ rest) = a := by
  apply Vector.ext
  simp [copyOf, List.getElem?_append_left]

lemma toList_copyOf {b : Bytes} (h : 16 ≤ b.length) : (copyOf b).toList = b.take 16 := by
  apply List.ext_getElem
  · simp [h]
  intro i hi _
  have hib : i < b.length := by
    simp only [length_toList] at hi
    omega
  simp [copyOf, hib]

lemma copyOf_append_drop {b : Bytes} (h : 16 ≤ b.length) : (copyOf b).toList ++ b.drop 16 = b := by
  rw [toList_copyOf h, List.take_append_drop]

@[simp] lemma xor_xor_cancel (a m : Block) : (a.xor m).xor m = a := by
  apply Vector.ext
  intro i hi
  simp only [xor, Vector.getElem_zipWith]
  rw [UInt8.xor_assoc, UInt8.xor_self, UInt8.xor_zero]

/-- The counter block `j` steps after `iv`, counting big-endian modulo `2 ^ 128`. -/
def add (iv : Block) (j : ℕ) : Block := copyOf (bytesOfNat 16 (natOfBytes iv.toList + j))

end Block

/-- A block cipher: for every key a permutation of the blocks. -/
abbrev BlockCipher := Bytes → Equiv.Perm Block

/-! ### Counter mode -/

/-- `n` bytes of the key stream of `E` with initial counter `iv`, from position `pos` on. -/
def keyStream (E : Block → Block) (iv : Block) (pos n : ℕ) : Bytes :=
  (((List.range' (pos / 16) (n / 16 + 2)).flatMap fun j => (E (iv.add j)).toList).drop (pos % 16)).take n

@[simp] lemma length_keyStream {E : Block → Block} {iv : Block} {pos n : ℕ} : (keyStream E iv pos n).length = n := by
  have hlen : ∀ l : List ℕ, (l.flatMap fun j => (E (iv.add j)).toList).length = 16 * l.length := by
    intro l
    induction l with
    | nil => rfl
    | cons j l ih =>
      rw [List.flatMap_cons, List.length_append, ih]
      simp only [Block.length_toList, List.length_cons]
      omega
  simp only [keyStream, List.length_take, List.length_drop, hlen, List.length_range']
  omega

/-- A counter-mode stream: its key, its initial counter and how much of the key stream is
used up. -/
structure Stream where
  key : Bytes
  iv : Block
  pos : ℕ := 0
  deriving DecidableEq

/-- Mask a byte string with the next bytes of the stream. -/
def Stream.xorKeyStream (aes : BlockCipher) (s : Stream) (b : Bytes) : Stream × Bytes :=
  ({ s with pos := s.pos + b.length }, xorBytes b (keyStream (aes s.key) s.iv s.pos b.length))

namespace Stream

variable {aes : BlockCipher} (s : Stream) (b : Bytes)

@[simp] lemma length_xorKeyStream : (s.xorKeyStream aes b).2.length = b.length := by
  simp [xorKeyStream]

lemma xorKeyStream_xorKeyStream :
    s.xorKeyStream aes (s.xorKeyStream aes b).2 = ((s.xorKeyStream aes b).1, b) := by
  have hlen : (s.xorKeyStream aes b).2.length = b.length := length_xorKeyStream s b
  rw [xorKeyStream, hlen]
  simp only [xorKeyStream]
  rw [xorBytes_xorBytes (by simp)]

end Stream

end GoTor.Lib

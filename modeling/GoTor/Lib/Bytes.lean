import Mathlib.Algebra.Group.Int.Defs
import Mathlib.Algebra.Group.Nat.Defs
import Mathlib.Data.List.Basic
import Mathlib.Data.List.Induction

/-!
# Byte strings

Byte strings as lists, with the operations byte-level code is written in: the sub-slice
`b[lo:hi]`, overwriting a range in place, the bytewise exclusive or, and big-endian numbers.
-/

namespace GoTor.Lib

abbrev Bytes := List UInt8

instance lawfulBEqBytes : LawfulBEq Bytes := inferInstance

/-- The sub-slice `b[lo:hi]`. -/
def slice (b : Bytes) (lo hi : ℕ) : Bytes := (b.drop lo).take (hi - lo)

/-- `b` with the bytes from offset `off` on overwritten by `v`. -/
def overwrite (off : ℕ) (v b : Bytes) : Bytes := b.take off ++ v ++ b.drop (off + v.length)

def xorBytes (a b : Bytes) : Bytes := List.zipWith (· ^^^ ·) a b

def zeros (n : ℕ) : Bytes := List.replicate n 0

def ascii (s : String) : Bytes := s.toList.map fun c => UInt8.ofNat c.toNat

/-! ### Overwriting -/

section Overwrite

open List

variable {off : ℕ} {v w b : Bytes}

lemma length_overwrite (h : off + v.length ≤ b.length) : (overwrite off v b).length = b.length := by
  simp only [overwrite, length_append, length_take, length_drop]
  omega

lemma overwrite_overwrite (hw : w.length = v.length) (h : off ≤ b.length) :
    overwrite off w (overwrite off v b) = overwrite off w b := by
  have htake : (b.take off).length = off := length_take_of_le h
  simp only [overwrite, append_assoc]
  congr 1
  · rw [take_append_of_le_length (by omega), take_of_length_le (by omega)]
  · congr 1
    simp [drop_append, htake, hw]

lemma slice_overwrite (h : off ≤ b.length) :
    slice (overwrite off v b) off (off + v.length) = v := by
  have htake : (b.take off).length = off := length_take_of_le h
  simp only [slice, overwrite, append_assoc]
  rw [drop_append_of_le_length (by omega)]
  simp

lemma getD_overwrite_of_lt {i : ℕ} (hi : i < off) (h : off ≤ b.length) :
    (overwrite off v b).getD i 0 = b.getD i 0 := by
  have hlen : i < (b.take off).length := by
    rw [length_take]
    omega
  simp only [overwrite, append_assoc, getD_eq_getElem?_getD]
  rw [getElem?_append_left hlen, getElem?_take_of_lt hi]

lemma getElem?_overwrite (h : off ≤ b.length) (i : ℕ) : (overwrite off v b)[i]? =
      if i < off then b[i]? else if i < off + v.length then v[i - off]? else b[i]? := by
  have htake : (b.take off).length = off := length_take_of_le h
  simp only [overwrite, append_assoc]
  by_cases h1 : i < off
  · rw [getElem?_append_left (by omega), getElem?_take_of_lt h1, if_pos h1]
  · rw [getElem?_append_right (by omega), htake, if_neg h1]
    by_cases h2 : i < off + v.length
    · rw [getElem?_append_left (by omega), if_pos h2]
    · rw [getElem?_append_right (by omega), getElem?_drop, if_neg h2]
      congr 1
      omega

lemma overwrite_comm {off' : ℕ} (hdisj : off + v.length ≤ off') (h : off' + w.length ≤ b.length) :
    overwrite off v (overwrite off' w b) = overwrite off' w (overwrite off v b) := by
  have h1 : (overwrite off' w b).length = b.length := length_overwrite h
  have h2 : (overwrite off v b).length = b.length := length_overwrite (by omega)
  apply ext_getElem?
  intro i
  rw [getElem?_overwrite (by omega), getElem?_overwrite (by omega), getElem?_overwrite (by omega),
    getElem?_overwrite (by omega)]
  by_cases hi : i < off + v.length
  · have : i < off' := by omega
    simp [this]
  · have : ¬ i < off := by omega
    simp [hi]

lemma overwrite_zero (v b : Bytes) : overwrite 0 v b = v ++ b.drop v.length := by
  simp [overwrite]

end Overwrite

/-! ### Sub-slices -/

section Slice

open List

variable {b : Bytes} {lo mid hi : ℕ}

lemma length_slice (h : hi ≤ b.length) : (slice b lo hi).length = hi - lo := by
  simp only [slice, length_take, length_drop]
  omega

lemma slice_zero (b : Bytes) (n : ℕ) : slice b 0 n = b.take n := by
  simp [slice]

lemma slice_to_end (b : Bytes) (lo : ℕ) : slice b lo b.length = b.drop lo := by
  rw [slice, take_of_length_le (by simp)]

lemma slice_middle (a b c : Bytes) (hlo : a.length = lo) (hhi : a.length + b.length = hi) :
    slice (a ++ (b ++ c)) lo hi = b := by
  subst hlo hhi
  rw [slice, drop_left, Nat.add_sub_cancel_left, take_left]

lemma slice_set_of_le {i : ℕ} {v : UInt8} (h : hi ≤ i) : slice (b.set i v) lo hi = slice b lo hi := by
  rw [slice, slice, ← drop_take, ← drop_take, take_set_of_le h]

lemma slice_set_of_lt {i : ℕ} {v : UInt8} (h : i < lo) : slice (b.set i v) lo hi = slice b lo hi := by
  rw [slice, slice, drop_set_of_lt h]

lemma slice_append_slice (b : Bytes) (hlo : lo ≤ mid) (hmid : mid ≤ hi) :
    slice b lo mid ++ slice b mid hi = slice b lo hi := by
  have hdrop : (b.drop lo).drop (mid - lo) = b.drop mid := by
    rw [drop_drop]
    congr 1
    omega
  have hhi : hi - lo = (mid - lo) + (hi - mid) := by omega
  simp only [slice]
  rw [hhi, take_add, hdrop]

lemma slice_succ (h : lo < b.length) : slice b lo (lo + 1) = [b.getD lo 0] := by
  have htake : (b.drop lo).take 1 = [b[lo]] := by
    rw [drop_eq_getElem_cons h, take_succ_cons, take_zero]
  rw [slice, Nat.add_sub_cancel_left, htake]
  simp [h]

end Slice

/-! ### Exclusive or -/

@[simp] lemma length_xorBytes {a b : Bytes} : (xorBytes a b).length = min a.length b.length := by
  simp [xorBytes]

lemma xorBytes_xorBytes {a k : Bytes} (h : a.length ≤ k.length) : xorBytes (xorBytes a k) k = a := by
  induction a generalizing k with
  | nil => simp [xorBytes]
  | cons x a ih =>
    cases k with
    | nil => simp at h
    | cons y k =>
      have hxy : x ^^^ y ^^^ y = x := by
        rw [UInt8.xor_assoc, UInt8.xor_self, UInt8.xor_zero]
      have hrest := ih (Nat.le_of_succ_le_succ h)
      simp only [xorBytes, List.zipWith_cons_cons] at hrest ⊢
      rw [hxy, hrest]

/-! ### Big-endian numbers -/

/-- The big-endian number a byte string spells. -/
def natOfBytes (b : Bytes) : ℕ := b.foldl (fun n x => n * 256 + x.toNat) 0

/-- The `len` low bytes of `n`, most significant first. -/
def bytesOfNat : (len n : ℕ) → Bytes
  | 0, _ => []
  | len + 1, n => bytesOfNat len (n / 256) ++ [UInt8.ofNat n]

@[simp] lemma length_bytesOfNat (len n : ℕ) : (bytesOfNat len n).length = len := by
  induction len generalizing n with
  | zero => rfl
  | succ len ih => simp [bytesOfNat, ih]

def vectorOfNat (len n : ℕ) : Vector UInt8 len := ⟨(bytesOfNat len n).toArray, by simp⟩

@[simp] lemma natOfBytes_append (b : Bytes) (x : UInt8) : natOfBytes (b ++ [x]) = natOfBytes b * 256 + x.toNat := by
  simp [natOfBytes]

lemma natOfBytes_lt (b : Bytes) : natOfBytes b < 256 ^ b.length := by
  induction b using List.reverseRecOn with
  | nil => simp [natOfBytes]
  | append_singleton b x ih =>
    have hx := x.toNat_lt
    rw [natOfBytes_append, List.length_append, List.length_singleton]
    omega

lemma bytesOfNat_natOfBytes (b : Bytes) : bytesOfNat b.length (natOfBytes b) = b := by
  induction b using List.reverseRecOn with
  | nil => rfl
  | append_singleton b x ih =>
    have hx := x.toNat_lt
    have hdiv : (natOfBytes b * 256 + x.toNat) / 256 = natOfBytes b := by omega
    have hmod : UInt8.ofNat (natOfBytes b * 256 + x.toNat) = x := by
      rw [← UInt8.toNat_inj, UInt8.toNat_ofNat']
      omega
    rw [List.length_append, List.length_singleton, natOfBytes_append, bytesOfNat, hdiv, ih, hmod]

lemma natOfBytes_bytesOfNat {len n : ℕ} (h : n < 256 ^ len) : natOfBytes (bytesOfNat len n) = n := by
  induction len generalizing n with
  | zero =>
    exact (Nat.lt_one_iff.1 h).symm
  | succ len ih =>
    rw [bytesOfNat, natOfBytes_append, ih (by omega), UInt8.toNat_ofNat']
    omega

/-- `binary.BigEndian.PutUint16`, as the two bytes it writes. -/
def putUint16 (x : UInt16) : Bytes := bytesOfNat 2 x.toNat

/-- `binary.BigEndian.Uint16` of the two bytes at offset `off`. -/
def uint16At (b : Bytes) (off : ℕ) : UInt16 := UInt16.ofNat (natOfBytes (slice b off (off + 2)))

@[simp] lemma length_putUint16 (x : UInt16) : (putUint16 x).length = 2 :=
  length_bytesOfNat 2 x.toNat

lemma bytesOfNat_uint16At {b : Bytes} {off : ℕ} (h : off + 2 ≤ b.length) :
    bytesOfNat 2 (uint16At b off).toNat = slice b off (off + 2) := by
  have hlen : (slice b off (off + 2)).length = 2 := by
    rw [length_slice h]
    omega
  have hlt := natOfBytes_lt (slice b off (off + 2))
  rw [hlen] at hlt
  have hnat : (uint16At b off).toNat = natOfBytes (slice b off (off + 2)) := by
    rw [uint16At, UInt16.toNat_ofNat']
    omega
  have hback := bytesOfNat_natOfBytes (slice b off (off + 2))
  rwa [hlen, ← hnat] at hback

end GoTor.Lib

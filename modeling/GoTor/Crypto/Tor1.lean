import GoTor.Crypto.Cgo

/-!
# The primitives of relay encryption and the tor1 cell fields

Two primitives stand behind relay encryption: the AES block cipher, of which only that each
key gives a permutation of the blocks is used, and SHA-1, of which only its length is.  A
running SHA-1 digest is represented by the bytes written to it so far; its clone is itself.

A tor1 relay payload carries a `recognized` field in bytes 1 and 2 and four bytes of the
running digest in bytes 5 to 8; the digest is taken with those four bytes zeroed.
-/

namespace GoTor.Crypto

open GoTor.Lib Block

/-- The block cipher and the hash relay encryption is built from. -/
structure Primitives where
  aes : BlockCipher
  sha1 : Bytes → Vector UInt8 20

def payloadLen : ℕ := 509

/-- The payload with its digest field zeroed. -/
def zeroDigest (payload : Bytes) : Bytes := overwrite 5 [0, 0, 0, 0] payload

def digestField (payload : Bytes) : Bytes := slice payload 5 9

def recognizedZero (payload : Bytes) : Bool := payload.getD 1 0 == 0 && payload.getD 2 0 == 0

section

variable {payload sum : Bytes} (h : payload.length = payloadLen)
include h

lemma length_stamped (hsum : sum.length = 4) : (overwrite 5 sum payload).length = payloadLen := by
  rw [length_overwrite (by simp [h, hsum, payloadLen]), h]

lemma zeroDigest_stamped (hsum : sum.length = 4) :
    zeroDigest (overwrite 5 sum payload) = zeroDigest payload :=
  overwrite_overwrite (by simp [hsum]) (by simp [h, payloadLen])

lemma digestField_stamped (hsum : sum.length = 4) : digestField (overwrite 5 sum payload) = sum := by
  have hslice := @slice_overwrite 5 sum payload (by simp [h, payloadLen])
  rwa [hsum] at hslice

lemma recognizedZero_stamped :
    recognizedZero (overwrite 5 sum payload) = recognizedZero payload := by
  have h5 : 5 ≤ payload.length := by simp [h, payloadLen]
  simp only [recognizedZero, getD_overwrite_of_lt (show 1 < 5 by decide) h5,
    getD_overwrite_of_lt (show 2 < 5 by decide) h5]

end

def xorPrimitives : Primitives where
  aes key :=
    { toFun := fun b => b.xor (copyOf key)
      invFun := fun b => b.xor (copyOf key)
      left_inv := fun b => xor_xor_cancel b _
      right_inv := fun b => xor_xor_cancel b _ }
  sha1 m := Vector.replicate 20 (UInt8.ofNat m.length)

end GoTor.Crypto

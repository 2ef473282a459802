import GoTor.Lib.Panic
import GoTor.Onion.Publish
import Mathlib.Data.ZMod.Basic

/-!
# Signatures with a blinded key

A service signs with the product of its secret scalar and the factor of the time period.  Everyone
else has only the service's public key and multiplies that point by the factor.  The signature
verifies under the product because both are the same multiple of the base point.
-/

namespace GoTor.Onion

open GoTor.Lib

/-! ### The group -/

/-- The order of the base point. -/
def groupOrder : ℕ := 2 ^ 252 + 27742317777372353535851937790883648493

/-- What package `edwards25519` offers, with the laws of the subgroup of the base point, and two
hash functions. -/
structure Edwards25519 (G : Type) [AddCommGroup G] where
  base : G
  bytes : G → Vector UInt8 32
  setBytes : Bytes → Option G
  sha512 : Bytes → Vector UInt8 64
  sha3 : Bytes → Vector UInt8 32
  order_nsmul_base : groupOrder • base = 0
  setBytes_bytes : ∀ n : ℕ, setBytes (bytes (n • base)).toList = some (n • base)

/-- `SetUniformBytes`: a little-endian number, modulo the order. -/
def scalarOf (b : Bytes) : ℕ := natOfBytes b.reverse % groupOrder

def scalarBytes (s : ℕ) : Bytes := (bytesOfNat 32 s).reverse

def clamp (b : Bytes) : Bytes := (b.modify 0 (· &&& 248)).modify 31 fun x => x &&& 63 ||| 64

/-- `SetBytesWithClamping`, on 32 bytes. -/
def clampedScalar (b : Bytes) : ℕ := scalarOf (clamp b)

structure BlindedSigningMaterial where
  scalar : ℕ
  noncePrefix : Bytes
  publicKey : Bytes

namespace Edwards25519

variable {G : Type} [AddCommGroup G] (E : Edwards25519 G)

def blindLib : BlindLib where
  sha3 := E.sha3
  scalarMult factor pubkey :=
    (E.setBytes pubkey).map fun A => E.bytes (clampedScalar factor • A)

/-! ### Keys, signing, verifying -/

/-- `ed25519.NewKeyFromSeed`: the seed, and the public key behind it. -/
def newKeyFromSeed (seed : Vector UInt8 32) : Bytes :=
  let a := clampedScalar ((E.sha512 seed.toList).toList.take 32)
  seed.toList ++ (E.bytes (a • E.base)).toList

def deriveBlindedSigningMaterial (identityPriv : Bytes) (timePeriod : ℕ) : Except String BlindedSigningMaterial :=
  if identityPriv.length ≠ 64 then .error "invalid identity private key length"
  else do
    let pub := identityPriv.drop 32
    let h := (E.sha512 (identityPriv.take 32)).toList
    let a := clampedScalar (h.take 32)
    let param ← buildBlindedKeyParam E.blindLib pub timePeriod hsdirIntervalDefaultMinutes
    let tweak := clampedScalar param
    return {
      scalar := a * tweak % groupOrder
      noncePrefix := (E.sha512 (param ++ h.drop 32)).toList.take 32
      publicKey := computeBlindedPubkey E.blindLib pub timePeriod }

def sign (m : BlindedSigningMaterial) (message : Bytes) : Except String Bytes :=
  if m.publicKey.length ≠ 32 then .error "invalid blinded signing material"
  else
    let r := scalarOf (E.sha512 (m.noncePrefix ++ message)).toList
    let R := (E.bytes (r • E.base)).toList
    let k := scalarOf (E.sha512 (R ++ m.publicKey ++ message)).toList
    .ok (R ++ scalarBytes ((k * m.scalar + r) % groupOrder))

/-- `ed25519.Verify`. -/
def verify (publicKey message sig : Bytes) : Res Bool :=
  if publicKey.length ≠ 32 then .error .panic
  else if sig.length ≠ 64 then .ok false
  else
    match E.setBytes publicKey with
    | none => .ok false
    | some A =>
      let k := scalarOf (E.sha512 (sig.take 32 ++ publicKey ++ message)).toList
      let S := natOfBytes (sig.drop 32).reverse
      if groupOrder ≤ S then .ok false
      else .ok (sig.take 32 == (E.bytes (k • -A + S • E.base)).toList)

/-! ### Multiples of the base point -/

variable {E}

lemma mod_nsmul_base (n : ℕ) : (n % groupOrder) • E.base = n • E.base :=
  (nsmul_eq_mod_nsmul n E.order_nsmul_base).symm

lemma scalar_lt (n : ℕ) : n % groupOrder < groupOrder := Nat.mod_lt n (by decide)

lemma natOfBytes_scalarBytes (n : ℕ) :
    natOfBytes (scalarBytes (n % groupOrder)).reverse = n % groupOrder := by
  rw [scalarBytes, List.reverse_reverse]
  exact natOfBytes_bytesOfNat (Nat.lt_trans (scalar_lt n) (by decide))

/-- A public key is blinded like the secret scalar behind it. -/
lemma computeBlindedPubkey_bytes (a timePeriod : ℕ) : ∃ param : Vector UInt8 32,
      buildBlindedKeyParam E.blindLib (E.bytes (a • E.base)).toList timePeriod
        hsdirIntervalDefaultMinutes = .ok param.toList ∧
      computeBlindedPubkey E.blindLib (E.bytes (a • E.base)).toList timePeriod =
        (E.bytes ((a * clampedScalar param.toList % groupOrder) • E.base)).toList := by
  have hparam : buildBlindedKeyParam E.blindLib (E.bytes (a • E.base)).toList timePeriod
      hsdirIntervalDefaultMinutes = .ok _ := if_neg (by simp)
  refine ⟨_, hparam, ?_⟩
  have hmult : ∀ factor, E.blindLib.scalarMult factor (E.bytes (a • E.base)).toList =
      some (E.bytes (clampedScalar factor • a • E.base)) := fun factor => by
    simp only [blindLib, E.setBytes_bytes, Option.map_some]
  rw [computeBlindedPubkey, hparam]
  simp only [hmult, mod_nsmul_base, mul_nsmul]

/-- The signing material's public key is that of its scalar, and the one that everyone derives. -/
lemma derive_newKeyFromSeed (E : Edwards25519 G) (seed : Vector UInt8 32) (timePeriod : ℕ) :
    ∃ m, E.deriveBlindedSigningMaterial (E.newKeyFromSeed seed) timePeriod = .ok m ∧
      m.publicKey = computeBlindedPubkey E.blindLib ((E.newKeyFromSeed seed).drop 32) timePeriod ∧
      m.publicKey = (E.bytes (m.scalar • E.base)).toList := by
  have hseed : (E.newKeyFromSeed seed).take 32 = seed.toList := List.take_left' (by simp)
  have hpub : (E.newKeyFromSeed seed).drop 32 = (E.bytes (_ • E.base)).toList :=
    List.drop_left' (by simp)
  obtain ⟨param, hparam, hblinded⟩ := computeBlindedPubkey_bytes (E := E)
    (clampedScalar ((E.sha512 seed.toList).toList.take 32)) timePeriod
  rw [deriveBlindedSigningMaterial, if_neg (by simp [newKeyFromSeed])]
  simp only [hseed, hpub, hparam]
  exact ⟨_, rfl, rfl, hblinded⟩

/-- What is signed with a scalar verifies under the multiple of the base point. -/
lemma verify_sign {m : BlindedSigningMaterial}
    (h : m.publicKey = (E.bytes (m.scalar • E.base)).toList) (message : Bytes) :
    ∃ sig, E.sign m message = .ok sig ∧ E.verify m.publicKey message sig = .ok true := by
  have hkey : m.publicKey.length = 32 := by simp [h]
  refine ⟨_, if_neg (not_not.2 hkey), ?_⟩
  generalize scalarOf (E.sha512 (m.noncePrefix ++ message)).toList = r
  generalize hR : (E.bytes (r • E.base)).toList = R
  have hlen : R.length = 32 := by simp [← hR]
  generalize hk : scalarOf (E.sha512 (R ++ m.publicKey ++ message)).toList = k
  have hdecode : E.setBytes m.publicKey = some (m.scalar • E.base) := by
    rw [h, E.setBytes_bytes]
  have hpoint : k • -(m.scalar • E.base) + ((k * m.scalar + r) % groupOrder) • E.base = r • E.base := by
    rw [mod_nsmul_base, add_nsmul, mul_nsmul', smul_neg, neg_add_cancel_left]
  simp only [verify, hdecode, List.take_left' hlen, List.drop_left' hlen, hk, natOfBytes_scalarBytes, hpoint, hR]
  rw [if_neg (not_not.2 hkey), if_neg (by simp [hlen, scalarBytes]),
    if_neg (Nat.not_le.2 (scalar_lt _)), beq_self_eq_true]

/-- **A signature of the period's signing material verifies** under the key that everyone derives
from the service's public key. -/
theorem blinded_signature_verifies (E : Edwards25519 G) (seed : Vector UInt8 32) (timePeriod : ℕ) (message : Bytes) :
    ∃ m sig, E.deriveBlindedSigningMaterial (E.newKeyFromSeed seed) timePeriod = .ok m ∧ E.sign m message = .ok sig ∧
      E.verify (computeBlindedPubkey E.blindLib ((E.newKeyFromSeed seed).drop 32) timePeriod)
        message sig = .ok true := by
  obtain ⟨m, hderive, hpub, hscalar⟩ := E.derive_newKeyFromSeed seed timePeriod
  obtain ⟨sig, hsign, hverify⟩ := verify_sign hscalar message
  exact ⟨m, sig, hderive, hsign, hpub ▸ hverify⟩

instance : NeZero groupOrder := ⟨by decide⟩

/-- The residues modulo the order are such a group. -/
def residues : Edwards25519 (ZMod groupOrder) where
  base := 1
  bytes g := vectorOfNat 32 g.val
  setBytes b := some (natOfBytes b : ZMod groupOrder)
  sha512 b := vectorOfNat 64 (natOfBytes b)
  sha3 b := vectorOfNat 32 (natOfBytes b)
  order_nsmul_base := by rw [nsmul_one, ZMod.natCast_self]
  setBytes_bytes n := by
    have h : (n • (1 : ZMod groupOrder)).val < 256 ^ 32 :=
      Nat.lt_trans (ZMod.val_lt _) (by decide)
    simp only [vectorOfNat, Vector.toList_mk, natOfBytes_bytesOfNat h, ZMod.natCast_zmod_val]

theorem blinded_signature_verifies_residues :
    ∃ m sig, residues.deriveBlindedSigningMaterial
        (residues.newKeyFromSeed (vectorOfNat 32 7)) 20771 = .ok m ∧
      residues.sign m (ascii "descriptor") = .ok sig ∧
      residues.verify (computeBlindedPubkey residues.blindLib
        ((residues.newKeyFromSeed (vectorOfNat 32 7)).drop 32) 20771) (ascii "descriptor") sig = .ok true :=
  blinded_signature_verifies residues (vectorOfNat 32 7) 20771 (ascii "descriptor")

end Edwards25519

end GoTor.Onion

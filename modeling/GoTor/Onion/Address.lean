import GoTor.Lib.Bytes

/-!
# Onion addresses

A v3 address is the base32 encoding of a public key, two checksum bytes and a version byte,
followed by `.onion`.  `IsOnionAddress` looks at the suffix only, byte by byte.
-/

namespace GoTor.Onion

open GoTor.Lib

def v3Suffix : Bytes := [46, 111, 110, 105, 111, 110]
def v3AddressLength : ℕ := 56
def v3Version : UInt8 := 3
def v3ChecksumLen : ℕ := 2
def v3PubkeyLen : ℕ := 32

structure Address where
  pubkey : Bytes
  raw : Bytes
  deriving DecidableEq

def isOnionAddress (addr : Bytes) : Bool := v3Suffix.isSuffixOf addr

def trimV3Suffix (addr : Bytes) : Bytes :=
  if isOnionAddress addr then addr.take (addr.length - v3Suffix.length) else addr

def base32Value (c : UInt8) : Option ℕ :=
  if 65 ≤ c ∧ c ≤ 90 then some (c.toNat - 65)
  else if 50 ≤ c ∧ c ≤ 55 then some (c.toNat - 50 + 26)
  else none

/-- The 35 bytes that 56 letters of base32 encode. -/
def base32Decode (letters : Bytes) : Option Bytes := do
  let values ← letters.mapM base32Value
  return bytesOfNat 35 (values.foldl (fun n v => n * 32 + v) 0)

variable (sha3 : Bytes → Vector UInt8 32)

def computeV3Checksum (pubkey : Bytes) (version : UInt8) : Bytes :=
  (sha3 (ascii ".onion checksum" ++ pubkey ++ [version])).toList.take 2

def upperByte (c : UInt8) : UInt8 := if 97 ≤ c ∧ c ≤ 122 then c - 32 else c

/-- `parseV3Address`, for an address of 56 bytes. -/
def parseV3Address (addr : Bytes) : Option Address := do
  let decoded ← base32Decode (addr.map upperByte)
  let pubkey := slice decoded 0 v3PubkeyLen
  let checksum := slice decoded v3PubkeyLen (v3PubkeyLen + v3ChecksumLen)
  let version := decoded.getD (v3PubkeyLen + v3ChecksumLen) 0
  if version ≠ v3Version then none
  else if checksum ≠ computeV3Checksum sha3 pubkey version then none
  else return { pubkey, raw := addr ++ v3Suffix }

/-- `ParseAddress`; the text of its error is only logged. -/
def parseAddress (addr : Bytes) : Option Address :=
  let addr := trimV3Suffix addr
  if addr.length = v3AddressLength then parseV3Address sha3 addr else none

end GoTor.Onion

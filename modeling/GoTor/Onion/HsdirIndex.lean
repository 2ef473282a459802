import GoTor.Lib.Ring
import GoTor.Lib.Text

/-!
# The hash ring of hidden service directories

`hsdir_index.go` and what it needs of `keyblind.go` and `onion.go`: the index of a directory and
of a replica, the shared random value in use, and the choice of the responsible directories.
SHA3-256 is a parameter.  `sort.Slice` and `sort.Search` are an insertion sort and the first
position that fits.
-/

namespace GoTor.Onion

open GoTor.Lib

/-! ### Directories -/

structure Relay where
  identityKey : Bytes := []
  deriving DecidableEq

structure HSDirectory where
  fingerprint : Bytes
  address : Bytes := []
  orPort : ℕ := 0
  hsDir : Bool := true
  relay : Option Relay := none
  deriving DecidableEq

/-- `ed25519Identity`; `nil` is the empty string. -/
def HSDirectory.ed25519Identity (d : HSDirectory) : Bytes :=
  match d.relay with
  | none => []
  | some r => if r.identityKey.length = 32 then r.identityKey else []

/-- What the choice tells directories apart by. -/
def HSDirectory.key (d : HSDirectory) : Bytes :=
  if d.fingerprint = [] then d.address ++ [58] ++ itoa d.orPort else d.fingerprint

/-! ### Parameters of the ring -/

def hsdirNReplicasDefault : ℤ := 2
def hsdirSpreadFetchDefault : ℤ := 3
def hsdirSpreadStoreDefault : ℤ := 4
def hsdirIntervalDefaultMinutes : ℕ := 1440
def hsdirRotationOffsetMinutes : ℕ := 12 * 60

/-- A parameter, or its default if it is not positive. -/
def orDefault (v default : ℤ) : ℤ := if v ≤ 0 then default else v

structure HSDirRingParams where
  nReplicas : ℤ := 0
  spreadFetch : ℤ := 0
  spreadStore : ℤ := 0
  deriving DecidableEq

def HSDirRingParams.withDefaults (p : HSDirRingParams) : HSDirRingParams where
  nReplicas := orDefault p.nReplicas hsdirNReplicasDefault
  spreadFetch := orDefault p.spreadFetch hsdirSpreadFetchDefault
  spreadStore := orDefault p.spreadStore hsdirSpreadStoreDefault

lemma orDefault_pos (v default : ℤ) (h : 0 < default) : 0 < (orDefault v default).toNat := by
  unfold orDefault
  split <;> omega

/-! ### Time -/

/-- `GetTimePeriod` at a Unix time. -/
def getTimePeriod (now : ℤ) : ℕ :=
  if now < 0 then 0
  else
    let minutes := now.toNat / 60
    if minutes < hsdirRotationOffsetMinutes then 0
    else (minutes - hsdirRotationOffsetMinutes) / hsdirIntervalDefaultMinutes

/-- `UseCurrentSRVForFetch`: from noon (UTC) on. -/
def useCurrentSRVForFetch (now : ℤ) : Bool := now % 86400 / 3600 ≥ 12

/-! ### Indexes -/

def compareBytes : Bytes → Bytes → Ordering
  | [], [] => .eq
  | [], _ :: _ => .lt
  | _ :: _, [] => .gt
  | x :: a, y :: b => if x < y then .lt else if y < x then .gt else compareBytes a b

section Index

variable (sha3 : Bytes → Vector UInt8 32)

def putUint64 (n : ℕ) : Bytes := bytesOfNat 8 n

/-- The message that is hashed to the disaster value. -/
def disasterMessage (periodNum : ℕ) : Bytes :=
  ascii "shared-random-disaster" ++ putUint64 hsdirIntervalDefaultMinutes ++ putUint64 periodNum

/-- `DisasterSRV`, for periods of the default length. -/
def disasterSRV (periodNum : ℕ) : Bytes := (sha3 (disasterMessage periodNum)).toList

/-- The message that is hashed to the index of a replica. -/
def storeMessage (blindedPubkey : Bytes) (replica periodNum : ℕ) : Bytes :=
  ascii "store-at-idx" ++ blindedPubkey ++ putUint64 replica ++
    putUint64 hsdirIntervalDefaultMinutes ++ putUint64 periodNum

/-- `BuildHSIndex`, for periods of the default length. -/
def buildHSIndex (blindedPubkey : Bytes) (replica periodNum : ℕ) : Except String Bytes :=
  if blindedPubkey.length ≠ 32 then .error "blinded pubkey must be 32 bytes"
  else if replica = 0 then .error "replica must be >= 1"
  else .ok (sha3 (storeMessage blindedPubkey replica periodNum)).toList

/-- The message that is hashed to the index of a directory. -/
def nodeMessage (nodeIdentity srv : Bytes) (periodNum : ℕ) : Bytes :=
  ascii "node-idx" ++ nodeIdentity ++ srv ++ putUint64 periodNum ++ putUint64 hsdirIntervalDefaultMinutes

/-- `BuildHSDirIndex`, for periods of the default length. -/
def buildHSDirIndex (nodeIdentity srv : Bytes) (periodNum : ℕ) : Except String Bytes :=
  if nodeIdentity.length ≠ 32 then .error "node identity must be 32 bytes"
  else if srv.length ≠ 32 then .error "shared random value must be 32 bytes"
  else .ok (sha3 (nodeMessage nodeIdentity srv periodNum)).toList

def selectSRVForFetch (now : ℤ) (periodNum : ℕ) (current previous : Bytes) : Bytes :=
  let wantCurrent := useCurrentSRVForFetch now
  if wantCurrent && current.length == 32 then current
  else if !wantCurrent && previous.length == 32 then previous
  else if current.length = 32 then current
  else if previous.length = 32 then previous
  else disasterSRV sha3 periodNum

/-! ### The choice on the ring -/

structure HsdirRingEntry where
  dir : HSDirectory
  index : Bytes
  deriving DecidableEq

/-- The order `sort.Slice` sorts the ring by. -/
def HsdirRingEntry.Before (a b : HsdirRingEntry) : Prop := (compareBytes a.index b.index).isLE

instance : DecidableRel HsdirRingEntry.Before := fun a b =>
  inferInstanceAs (Decidable ((compareBytes a.index b.index).isLE = true))

/-- The entry of one directory, if it is on the ring at all. -/
def ringEntryOf (srv : Bytes) (periodNum : ℕ) (d : HSDirectory) : Option HsdirRingEntry :=
  if !d.hsDir then none
  else
    match buildHSDirIndex sha3 d.ed25519Identity srv periodNum with
    | .error _ => none
    | .ok index => some { dir := d, index }

def ringOf (hsdirs : List HSDirectory) (srv : Bytes) (periodNum : ℕ) : List HsdirRingEntry :=
  (hsdirs.filterMap (ringEntryOf sha3 srv periodNum)).insertionSort HsdirRingEntry.Before

/-- What the loop has chosen: the keys in `seen`, and `out`. -/
structure Selection where
  seen : List Bytes := []
  out : List HSDirectory := []

/-- The inner loop at position `i`, with `added` chosen for this replica.  It is back at `start`
after one round, so the length of the ring bounds it. -/
def selectFrom (ring : List HsdirRingEntry) (spread start : ℕ) : (fuel i added : ℕ) → Selection → Selection
  | 0, _, _, s => s
  | fuel + 1, i, added, s =>
    if added < spread then
      match ring[i]? with
      | none => s
      | some e =>
        let fresh := e.dir.key ∉ s.seen
        let s := if fresh then { seen := e.dir.key :: s.seen, out := s.out ++ [e.dir] } else s
        let i := nextPos ring.length i
        if i = start then s
        else selectFrom ring spread start fuel i (if fresh then added + 1 else added) s
    else s

/-- The position the scan for a replica starts at. -/
def startOf (ring : List HsdirRingEntry) (hsIdx : Bytes) : ℕ :=
  let start := ring.findIdx fun e => (compareBytes e.index hsIdx).isGE
  if start = ring.length then 0 else start

variable (blindedPubkey : Bytes)

def selectReplica (ring : List HsdirRingEntry) (periodNum spread : ℕ) (s : Selection) (replica : ℕ) : Selection :=
  match buildHSIndex sha3 blindedPubkey replica periodNum with
  | .error _ => s
  | .ok hsIdx =>
    let start := startOf ring hsIdx
    selectFrom ring spread start ring.length start 0 s

/-- `selectResponsibleHSDirs`. -/
def selectResponsibleHSDirsWith (hsdirs : List HSDirectory) (srv : Bytes)
    (periodNum nReplicas spread : ℕ) : List HSDirectory :=
  let ring := ringOf sha3 hsdirs srv periodNum
  if ring = [] then []
  else ((List.range' 1 nReplicas).foldl
    (selectReplica sha3 blindedPubkey ring periodNum spread) {}).out

def selectResponsibleHSDirs (hsdirs : List HSDirectory) (srv : Bytes) (periodNum : ℕ)
    (nReplicas spreadFetch : ℤ) : List HSDirectory :=
  selectResponsibleHSDirsWith sha3 blindedPubkey hsdirs srv periodNum
    (orDefault nReplicas hsdirNReplicasDefault).toNat
    (orDefault spreadFetch hsdirSpreadFetchDefault).toNat

def selectResponsibleHSDirsStore (hsdirs : List HSDirectory) (srv : Bytes) (periodNum : ℕ)
    (nReplicas spreadStore : ℤ) : List HSDirectory :=
  selectResponsibleHSDirsWith sha3 blindedPubkey hsdirs srv periodNum
    (orDefault nReplicas hsdirNReplicasDefault).toNat
    (orDefault spreadStore hsdirSpreadStoreDefault).toNat

def isResponsibleHSDir (selfID blindedPubkey : Bytes) (hsdirs : List HSDirectory) (srv : Bytes)
    (periodNum : ℕ) (nReplicas spreadStore : ℤ) : Bool :=
  if selfID.length ≠ 32 || blindedPubkey.length ≠ 32 then false
  else (selectResponsibleHSDirsStore sha3 blindedPubkey hsdirs srv periodNum nReplicas
    spreadStore).any fun d => d.ed25519Identity == selfID

end Index

end GoTor.Onion

import GoTor.Lib.Bytes
import GoTor.Lib.Result

/-!
# Replay protection

The tracker a circuit puts every decrypted cell through.  For each direction it numbers the
accepted cells and remembers the SHA-256 digests of the most recent ones; a cell whose digest
it still remembers is refused.
-/

namespace GoTor.Cell

open GoTor.Lib

inductive ReplayDirection
  | forward
  | backward
  deriving DecidableEq

/-- One direction of `ReplayProtection`. -/
structure ReplayTrack where
  seq : ℕ := 0
  window : List ℕ := []
  /-- Cell digests with the sequence numbers they were accepted under. -/
  digests : List (Bytes × ℕ) := []
  deriving DecidableEq

structure ReplayProtection where
  forward : ReplayTrack := {}
  backward : ReplayTrack := {}
  windowSize : ℕ := 32
  deriving DecidableEq

namespace ReplayTrack

variable (windowSize : ℕ) (r : ReplayTrack)

def validateSequence (seqNum : ℕ) : Except String Unit :=
  if seqNum ∈ r.window then
    .error s!"replay detected: duplicate sequence number {seqNum}"
  else if r.seq > windowSize ∧ seqNum < r.seq - windowSize then
    .error s!"replay detected: sequence number {seqNum} too old (expected >= {r.seq - windowSize})"
  else if seqNum > r.seq + windowSize * 2 then
    .error s!"sequence number {seqNum} too far ahead (expected near {r.seq})"
  else .ok ()

/-- `cleanupWindow`: what lies before the window is forgotten. -/
def cleanupWindow : ReplayTrack :=
  let minValidSeq := r.seq - windowSize
  { r with
    window := r.window.filter (minValidSeq ≤ ·)
    digests := r.digests.filter (minValidSeq ≤ ·.2) }

/-- `validateForwardLocked` and `validateBackwardLocked`. -/
def validateLocked (seqNum : ℕ) (digest : Bytes) : Except String ReplayTrack :=
  match r.digests.lookup digest with
  | some prevSeq =>
    .error s!"replay detected: duplicate cell digest (original seq: {prevSeq}, replay seq: {seqNum})"
  | none => do
    r.validateSequence windowSize seqNum
    return cleanupWindow windowSize
      { r with window := seqNum :: r.window, digests := (digest, seqNum) :: r.digests }

end ReplayTrack

namespace ReplayProtection

def track (r : ReplayProtection) : ReplayDirection → ReplayTrack
  | .forward => r.forward
  | .backward => r.backward

def setTrack (r : ReplayProtection) : ReplayDirection → ReplayTrack → ReplayProtection
  | .forward, t => { r with forward := t }
  | .backward, t => { r with backward := t }

def validateAndTrackAuto (sha256 : Bytes → Vector UInt8 32) (r : ReplayProtection)
    (direction : ReplayDirection) (cellData : Bytes) : Except String ReplayProtection :=
  if cellData.length = 0 then .error "empty cell data"
  else do
    let t := r.track direction
    let t' ← t.validateLocked r.windowSize t.seq (sha256 cellData).toList
    return r.setTrack direction { t' with seq := t.seq + 1 }

end ReplayProtection

/-! ### What the tracker accepts -/

def ReplayTrack.Ahead (t : ReplayTrack) : Prop := ∀ n ∈ t.window, n < t.seq

section Accept

variable {sha256 : Bytes → Vector UInt8 32} {r r' : ReplayProtection} {d : ReplayDirection} {cellData : Bytes}

@[simp] lemma ReplayProtection.track_setTrack (r : ReplayProtection) (d : ReplayDirection)
    (t : ReplayTrack) : (r.setTrack d t).track d = t := by
  cases d <;> rfl

lemma ReplayTrack.Ahead.validateLocked {t t' : ReplayTrack} {w : ℕ} {digest : Bytes}
    (ht : t.Ahead) (h : t.validateLocked w t.seq digest = .ok t') :
    ∀ n ∈ t'.window, n < t.seq + 1 := by
  unfold ReplayTrack.validateLocked at h
  split at h
  · cases h
  obtain ⟨_, -, h⟩ := bind_eq_ok.1 h
  cases h
  intro n hn
  obtain ⟨hn, -⟩ := List.mem_filter.1 hn
  rcases List.mem_cons.1 hn with rfl | hn
  · omega
  · have := ht n hn
    omega

lemma ReplayTrack.Ahead.validateAndTrackAuto (hr : (r.track d).Ahead)
    (h : r.validateAndTrackAuto sha256 d cellData = .ok r') : (r'.track d).Ahead := by
  unfold ReplayProtection.validateAndTrackAuto at h
  split at h
  · cases h
  obtain ⟨t', ht', h⟩ := bind_eq_ok.1 h
  cases h
  rw [ReplayProtection.track_setTrack]
  intro n hn
  exact hr.validateLocked ht' n hn

lemma ReplayTrack.Ahead.accepts (hr : (r.track d).Ahead) (hne : cellData ≠ [])
    (hfresh : (r.track d).digests.lookup (sha256 cellData).toList = none) :
    ∃ r', r.validateAndTrackAuto sha256 d cellData = .ok r' := by
  have hseq : (r.track d).validateSequence r.windowSize (r.track d).seq = .ok () := by
    have hmem : (r.track d).seq ∉ (r.track d).window := fun h => absurd (hr _ h) (by omega)
    unfold ReplayTrack.validateSequence
    rw [if_neg hmem, if_neg (by omega), if_neg (by omega)]
  have hlen : cellData.length ≠ 0 := by simpa using hne
  unfold ReplayProtection.validateAndTrackAuto ReplayTrack.validateLocked
  rw [if_neg hlen]
  dsimp only
  rw [hfresh, hseq]
  exact ⟨_, rfl⟩

end Accept

end GoTor.Cell

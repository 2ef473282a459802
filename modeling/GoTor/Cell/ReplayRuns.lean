import GoTor.Cell.Replay
import GoTor.Lib.Run
import Mathlib.Data.List.Perm.Subperm
import Mathlib.Data.Vector.Defs

/-!
# Runs of the replay tracker

`ValidateAndTrack` moves the counter and then forgets what lies before the window.  The automatic
variant forgets first, and `GetNextSequence` forgets nothing, so the entry at the edge of the
window stays behind.  No replay is accepted either way, but only as long as no such entry is there
do the tables hold the window and no more.
-/

namespace GoTor.Cell

open GoTor.Lib Function
open List hiding Vector

/-- `validateForward` and `validateBackward`. -/
def ReplayTrack.validate (windowSize : ℕ) (r : ReplayTrack) (seqNum : ℕ) (digest : Bytes) :
    Except String ReplayTrack :=
  match r.digests.lookup digest with
  | some prevSeq =>
    .error s!"replay detected: duplicate cell digest (original seq: {prevSeq}, replay seq: {seqNum})"
  | none => do
    r.validateSequence windowSize seqNum
    return cleanupWindow windowSize
      { seq := if seqNum ≥ r.seq then seqNum + 1 else r.seq
        window := seqNum :: r.window, digests := (digest, seqNum) :: r.digests }

namespace ReplayProtection

def validateAndTrack (sha256 : Bytes → Vector UInt8 32) (r : ReplayProtection)
    (direction : ReplayDirection) (seqNum : ℕ) (cellData : Bytes) :
    Except String ReplayProtection :=
  if cellData.length = 0 then .error "empty cell data"
  else do
    let t ← (r.track direction).validate r.windowSize seqNum (sha256 cellData).toList
    return r.setTrack direction t

def getNextSequence (r : ReplayProtection) (direction : ReplayDirection) : ℕ × ReplayProtection :=
  let t := r.track direction
  (t.seq, r.setTrack direction { t with seq := t.seq + 1 })

end ReplayProtection

inductive ReplayOp
  | getNextSequence (d : ReplayDirection)
  | validateAndTrack (d : ReplayDirection) (seqNum : ℕ) (cellData : Bytes)
  | validateAndTrackAuto (d : ReplayDirection) (cellData : Bytes)

/-- An accepted cell, with the counter as it stood. -/
structure Acceptance where
  expected : ℕ
  seqNum : ℕ
  digest : Bytes

structure ReplayRun where
  guard : ReplayProtection
  accepted : ReplayDirection → List Acceptance := fun _ => []

namespace ReplayRun

variable (sha256 : Bytes → Vector UInt8 32)

def record (s : ReplayRun) (d : ReplayDirection) (seqNum : ℕ) (cellData : Bytes) :
    Except String ReplayProtection → ReplayRun
  | .error _ => s
  | .ok guard => ⟨guard, update s.accepted d (s.accepted d ++
      [⟨(s.guard.track d).seq, seqNum, (sha256 cellData).toList⟩])⟩

def step (s : ReplayRun) : ReplayOp → Option ReplayRun
  | .getNextSequence d => some { s with guard := (s.guard.getNextSequence d).2 }
  | .validateAndTrack d n data =>
    some (s.record sha256 d n data (s.guard.validateAndTrack sha256 d n data))
  | .validateAndTrackAuto d data => some (s.record sha256 d (s.guard.track d).seq data
      (s.guard.validateAndTrackAuto sha256 d data))

/-- The window is not empty, and no entry leaves it when the counter moves on by one. -/
def EdgeFree (s : ReplayRun) : ReplayOp → Prop
  | .getNextSequence d | .validateAndTrackAuto d _ => s.guard.windowSize ≠ 0 ∧
      ((s.guard.track d).seq < s.guard.windowSize ∨
        (s.guard.track d).seq - s.guard.windowSize ∉ (s.guard.track d).window)
  | .validateAndTrack _ _ _ => True

instance (s : ReplayRun) : (op : ReplayOp) → Decidable (s.EdgeFree op)
  | .getNextSequence _ | .validateAndTrackAuto _ _ => inferInstanceAs (Decidable (_ ∧ _))
  | .validateAndTrack _ _ _ => isTrue trivial

end ReplayRun

open ReplayRun

/-- Two accepted cells, in this order, are no replays. -/
def Acceptance.Apart (w : ℕ) (a b : Acceptance) : Prop :=
  a.seqNum ≠ b.seqNum ∧ (a.digest = b.digest → a.seqNum < b.expected - w)

/-- One direction: the tables hold numbers of the window only. -/
structure WindowExact (w : ℕ) (t : ReplayTrack) : Prop where
  window : ∀ n ∈ t.window, t.seq - w ≤ n ∧ n < t.seq
  digests : ∀ e ∈ t.digests, t.seq - w ≤ e.2 ∧ e.2 < t.seq
  size : t.window.length ≤ w + 1 ∧ t.digests.length ≤ w + 1

/-- No replays were accepted; the two tables list the same numbers, and every accepted cell of the
window. -/
structure Tracked (w : ℕ) (t : ReplayTrack) (accepted : List Acceptance) : Prop where
  apart : accepted.Pairwise (Acceptance.Apart w)
  same : t.digests.map Prod.snd = t.window
  nodup : t.window.Nodup
  kept : ∀ a ∈ accepted, t.seq - w ≤ a.seqNum → (a.digest, a.seqNum) ∈ t.digests

def ReplayTrack.InWindow (w : ℕ) (t : ReplayTrack) : Prop := ∀ n ∈ t.window, t.seq - w ≤ n ∧ n < t.seq

section Step

variable {w n m : ℕ} {t t' : ReplayTrack} {digest : Bytes} {accepted : List Acceptance}

lemma Tracked.exact (h : Tracked w t accepted) (hin : t.InWindow w) : WindowExact w t := by
  have hsize : t.window.length ≤ w := by
    have hsub : t.window ⊆ range' (t.seq - w) w := fun n hn => by
      have := hin n hn
      rw [mem_range'_1]
      omega
    simpa using (subperm_of_subset h.nodup hsub).length_le
  have hlen : t.digests.length = t.window.length := by rw [← h.same, length_map]
  refine ⟨hin, fun e he => hin _ ?_, by omega⟩
  rw [← h.same]
  exact mem_map_of_mem he

lemma Tracked.accept (h : Tracked w t accepted) (hnew : t.digests.lookup digest = none)
    (hseq : t.validateSequence w n = .ok ())
    (hwindow : t'.window = (n :: t.window).filter (m - w ≤ ·))
    (hdigests : t'.digests = ((digest, n) :: t.digests).filter (m - w ≤ ·.2))
    (hle : t.seq ≤ t'.seq) (hm : m ≤ t'.seq) :
    Tracked w t' (accepted ++ [⟨t.seq, n, digest⟩]) := by
  simp only [ReplayTrack.validateSequence, ite_error_eq_ok] at hseq
  obtain ⟨hfresh, hold, -⟩ := hseq
  have hmem : ∀ a ∈ accepted, t.seq - w ≤ a.seqNum → a.seqNum ∈ t.window := fun a ha hin =>
    h.same ▸ mem_map_of_mem (h.kept a ha hin)
  refine ⟨pairwise_append.2 ⟨h.apart, pairwise_singleton _ _, fun a ha =>
    forall_mem_singleton.2 ⟨?_, ?_⟩⟩, ?_, ?_, ?_⟩
  · -- the number is not in the table, which has all accepted numbers of the window
    rintro rfl
    exact hfresh (hmem a ha (by omega))
  · rintro rfl
    by_contra hin
    have hne := lookup_eq_none_iff.1 hnew _ (h.kept a ha (Nat.le_of_not_lt hin))
    simp at hne
  · rw [hwindow, hdigests, ← h.same]
    exact (filter_map (p := (m - w ≤ ·)) (f := Prod.snd) (l := (digest, n) :: _)).symm
  · rw [hwindow]
    exact (nodup_cons.2 ⟨hfresh, h.nodup⟩).filter _
  · rw [hdigests]
    intro a ha hin
    refine mem_filter.2 ⟨?_, decide_eq_true (by dsimp only; omega)⟩
    rcases mem_append.1 ha with ha | ha
    · exact mem_cons_of_mem _ (h.kept a ha (by omega))
    · rw [mem_singleton.1 ha]
      exact mem_cons_self

lemma ReplayTrack.InWindow.accept (h : t.InWindow w) (hwindow : t'.window = (n :: t.window).filter (m - w ≤ ·))
    (hle : t.seq ≤ t'.seq) (hlt : n < t'.seq)
    (hedge : ∀ k ∈ n :: t.window, m - w ≤ k → t'.seq - w ≤ k) : t'.InWindow w := by
  intro k hk
  rw [hwindow] at hk
  obtain ⟨hk, hmin⟩ := mem_filter.1 hk
  refine ⟨hedge k hk (of_decide_eq_true hmin), ?_⟩
  rcases mem_cons.1 hk with rfl | hk
  · exact hlt
  · exact Nat.lt_of_lt_of_le (h k hk).2 hle

end Step

namespace ReplayRun

variable {sha256 : Bytes → Vector UInt8 32} {s s' : ReplayRun} {op : ReplayOp} {d : ReplayDirection}

def Inv (s : ReplayRun) : Prop :=
  ∀ d, Tracked s.guard.windowSize (s.guard.track d) (s.accepted d)

def Windowed (s : ReplayRun) : Prop := ∀ d, (s.guard.track d).InWindow s.guard.windowSize

lemma Inv.set (h : s.Inv) {t : ReplayTrack} {log : List Acceptance} (ht : Tracked s.guard.windowSize t log)
    (hin : s.EdgeFree op → (s.guard.track d).InWindow s.guard.windowSize → t.InWindow s.guard.windowSize) :
    Inv ⟨s.guard.setTrack d t, update s.accepted d log⟩ ∧
      (s.EdgeFree op → s.Windowed → Windowed ⟨s.guard.setTrack d t, update s.accepted d log⟩) := by
  refine ⟨fun d' => ?_, fun hfree hwindow d' => ?_⟩
  · have hother := h d'
    cases d <;> cases d' <;> first | exact ht | exact hother
  · have hother := hwindow d'
    have ht := hin hfree (hwindow d)
    cases d <;> cases d' <;> first | exact ht | exact hother

lemma EdgeFree.le (h : s.EdgeFree (.getNextSequence d)) {k : ℕ}
    (hk : k ∈ (s.guard.track d).seq :: (s.guard.track d).window)
    (hmin : (s.guard.track d).seq - s.guard.windowSize ≤ k) :
    (s.guard.track d).seq + 1 - s.guard.windowSize ≤ k := by
  obtain ⟨hpos, hlow | hedge⟩ := h
  · omega
  rcases mem_cons.1 hk with rfl | hk
  · omega
  · have hne : k ≠ (s.guard.track d).seq - s.guard.windowSize := fun heq => hedge (heq ▸ hk)
    omega

lemma Inv.step (h : s.Inv) (hs : s.step sha256 op = some s') :
    s'.Inv ∧ (s.EdgeFree op → s.Windowed → s'.Windowed) := by
  cases op with
  | getNextSequence d =>
    cases hs
    have hd := h d
    have hset := h.set (t := { s.guard.track d with seq := (s.guard.track d).seq + 1 })
      { hd with kept := fun a ha hin => hd.kept a ha (by dsimp only at hin; omega) }
      fun (hfree : s.EdgeFree (.getNextSequence d)) hin n hn =>
        ⟨hfree.le (mem_cons_of_mem _ hn) (hin n hn).1, Nat.lt_succ_of_lt (hin n hn).2⟩
    rwa [update_eq_self] at hset
  | validateAndTrack d n data =>
    cases hs
    cases hv : s.guard.validateAndTrack sha256 d n data with
    | error e => exact ⟨h, fun _ hwindow => hwindow⟩
    | ok r =>
      obtain ⟨t, ht, ⟨⟩⟩ := bind_eq_ok.1 (ite_error_eq_ok.1 hv).2
      unfold ReplayTrack.validate at ht
      split at ht
      · cases ht
      next hnew =>
      obtain ⟨_, hseq, ⟨⟩⟩ := bind_eq_ok.1 ht
      -- the counter has moved before the cleanup
      refine h.set ((h d).accept hnew hseq rfl rfl ?_ (Nat.le_refl _)) fun _ hin => hin.accept rfl ?_ ?_ fun _ _ hk => hk <;>
        simp only [ReplayTrack.cleanupWindow] <;> split <;> omega
  | validateAndTrackAuto d data =>
    cases hs
    cases hv : s.guard.validateAndTrackAuto sha256 d data with
    | error e => exact ⟨h, fun _ hwindow => hwindow⟩
    | ok r =>
      obtain ⟨t, ht, ⟨⟩⟩ := bind_eq_ok.1 (ite_error_eq_ok.1 hv).2
      unfold ReplayTrack.validateLocked at ht
      split at ht
      · cases ht
      next hnew =>
      obtain ⟨_, hseq, ⟨⟩⟩ := bind_eq_ok.1 ht
      exact h.set ((h d).accept hnew hseq rfl rfl (Nat.le_succ _) (Nat.le_succ _)) fun hfree hin =>
        hin.accept rfl (Nat.le_succ _) (Nat.lt_succ_self _) fun _ => EdgeFree.le hfree

/-- **No replays, and no more than the window.**  In every run each direction has accepted no number
twice and no digest twice within the window.  If the counter does not move past an entry at the
edge of the window, its tables hold numbers of the window only. -/
theorem replay_window_exact (sha256 : Bytes → Vector UInt8 32) (windowSize : ℕ) (ops : List ReplayOp) (s : ReplayRun)
    (hrun : run (step sha256) ⟨{ windowSize }, fun _ => []⟩ ops = some s) (d : ReplayDirection) :
    (s.accepted d).Pairwise (Acceptance.Apart s.guard.windowSize) ∧
      (RunMeets (step sha256) EdgeFree ⟨{ windowSize }, fun _ => []⟩ ops →
        WindowExact s.guard.windowSize (s.guard.track d)) := by
  have hinit : Inv ⟨{ windowSize }, fun _ => []⟩ := by
    intro d
    cases d <;> exact ⟨List.Pairwise.nil, rfl, nodup_nil, nofun⟩
  have hinv : s.Inv := run_inv (fun _ _ _ h (_ : True) hs => (h.step hs).1) hinit
    (.of_forall (fun _ _ => trivial) _ _) hrun
  refine ⟨(hinv d).apart, fun hfree => (hinv d).exact ?_⟩
  have hboth : s.Inv ∧ s.Windowed := by
    refine run_inv (fun (t : ReplayRun) _ _ (h : t.Inv ∧ t.Windowed) hfree hs => ?_) ⟨hinit, fun d => ?_⟩ hfree hrun
    · exact (h.1.step hs).imp_right fun hwindow => hwindow hfree h.2
    · cases d <;> exact nofun
  exact hboth.2 d

def firstByte (data : Bytes) : Vector UInt8 32 := Vector.replicate 32 (data.headD 0)

def outOfOrder : List ReplayOp :=
  [.validateAndTrackAuto .backward [1], .validateAndTrack .backward 3 [2], .validateAndTrack .backward 2 [3]]

theorem replay_window_exact_three :
    ∃ s, run (step firstByte) ⟨{ windowSize := 2 }, fun _ => []⟩ outOfOrder = some s ∧
      (s.guard.track .backward).window = [2, 3] ∧
      WindowExact s.guard.windowSize (s.guard.track .backward) :=
  ⟨_, rfl, by decide +kernel,
    (replay_window_exact firstByte 2 outOfOrder _ rfl .backward).2 (by decide +kernel)⟩

/-- With a window of one number, two automatic cells leave two entries, and the number of the
first is refused as too old. -/
theorem replay_entry_left_behind :
    ∃ s, run (step firstByte) ⟨{ windowSize := 1 }, fun _ => []⟩
      [.validateAndTrackAuto .backward [1], .validateAndTrackAuto .backward [2]] = some s ∧
      (s.guard.track .backward).seq = 2 ∧ (s.guard.track .backward).window = [1, 0] ∧
      ¬ WindowExact s.guard.windowSize (s.guard.track .backward) := by
  refine ⟨_, rfl, by decide +kernel, by decide +kernel, fun h => ?_⟩
  have hold := h.window 0 (by decide +kernel)
  revert hold
  decide +kernel

end ReplayRun

end GoTor.Cell

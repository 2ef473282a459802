import GoTor.Circuit.ConfluxOrder

/-!
# The cells of a Conflux set in transit

The sender and the receiver count apart: the numbers of the cells in transit are those the
receiving leg will give them, walking along its wire (`numbersOn`).  The invariant is that
these numbers and those waiting in the buffer are, together, the numbers not yet released,
each with the cell that was sent under it.  This module has the invariant and the steps of the
sender.
-/

namespace GoTor.Circuit

open GoTor.Lib GoTor.Cell Function List Leg

/-! ### Numbers in transit -/

def isSwitch (rc : RelayCell) : Bool := rc.command = relayConfluxSwitch

def relOf (rc : RelayCell) : ℕ := (decodeConfluxSwitch rc.data).toOption.getD 0

/-- The numbers a leg at `n` will give the cells of a wire. -/
def numbersOn : ℕ → List RelayCell → List (ℕ × RelayCell)
  | _, [] => []
  | n, rc :: w =>
    if isSwitch rc then numbersOn (n + relOf rc) w else (n + 1, rc) :: numbersOn (n + 1) w

/-- Where a leg at `n` will stand after a wire. -/
def countAfter : ℕ → List RelayCell → ℕ
  | n, [] => n
  | n, rc :: w => if isSwitch rc then countAfter (n + relOf rc) w else countAfter (n + 1) w

section Wire

variable {n : ℕ} {rc : RelayCell} {w : List RelayCell}

@[simp] lemma numbersOn_nil (n : ℕ) : numbersOn n [] = [] := rfl

@[simp] lemma countAfter_nil (n : ℕ) : countAfter n [] = n := rfl

lemma numbersOn_switch (h : isSwitch rc = true) :
    numbersOn n (rc :: w) = numbersOn (n + relOf rc) w := by simp [numbersOn, h]

lemma numbersOn_cell (h : isSwitch rc = false) :
    numbersOn n (rc :: w) = (n + 1, rc) :: numbersOn (n + 1) w := by simp [numbersOn, h]

lemma countAfter_switch (h : isSwitch rc = true) :
    countAfter n (rc :: w) = countAfter (n + relOf rc) w := by simp [countAfter, h]

lemma countAfter_cell (h : isSwitch rc = false) :
    countAfter n (rc :: w) = countAfter (n + 1) w := by simp [countAfter, h]

lemma countAfter_append (n : ℕ) (w w' : List RelayCell) :
    countAfter n (w ++ w') = countAfter (countAfter n w) w' := by
  induction w generalizing n with
  | nil => rfl
  | cons rc w ih =>
    simp only [cons_append, countAfter]
    split <;> exact ih _

lemma numbersOn_append (n : ℕ) (w w' : List RelayCell) :
    numbersOn n (w ++ w') = numbersOn n w ++ numbersOn (countAfter n w) w' := by
  induction w generalizing n with
  | nil => rfl
  | cons rc w ih =>
    simp only [cons_append, numbersOn, countAfter]
    split
    · exact ih _
    · rw [ih, cons_append]

end Wire

lemma decodeConfluxSwitch_encode {rel : ℕ} (h : rel < 2 ^ 32) :
    decodeConfluxSwitch (encodeConfluxSwitch rel) = .ok rel := by
  unfold decodeConfluxSwitch encodeConfluxSwitch
  rw [if_neg (by simp)]
  have hslice : slice (bytesOfNat 4 rel) 0 4 = bytesOfNat 4 rel := by
    simp [slice, take_of_length_le]
  rw [hslice, natOfBytes_bytesOfNat (by simpa using h)]

/-- What an honest sender puts on a wire. -/
structure SentCell (rc : RelayCell) : Prop where
  switch : isSwitch rc = true → decodeConfluxSwitch rc.data = .ok (relOf rc) ∧ 1 ≤ relOf rc
  cell : isSwitch rc = false → confluxShouldMultiplex rc.command = true

lemma sentCell_of_multiplex {rc : RelayCell} (h : confluxShouldMultiplex rc.command = true) :
    isSwitch rc = false ∧ SentCell rc := by
  have hsw : isSwitch rc = false := by
    by_contra hne
    have hcmd : rc.command = relayConfluxSwitch := by simpa [isSwitch] using hne
    rw [hcmd] at h
    revert h
    decide
  exact ⟨hsw, fun hs => by simp [hsw] at hs, fun _ => h⟩

lemma switchCell_eq {rel : ℕ} {sw : RelayCell} (h1 : 1 ≤ rel) (h2 : rel < 2 ^ 32)
    (h : newRelayCell 0 relayConfluxSwitch (encodeConfluxSwitch rel) = .ok sw) :
    isSwitch sw = true ∧ relOf sw = rel ∧ SentCell sw := by
  obtain ⟨hcmd, -, hdata⟩ := newRelayCell_eq_ok h
  have hdec : decodeConfluxSwitch sw.data = .ok rel := by
    rw [hdata, decodeConfluxSwitch_encode h2]
  have hrel : relOf sw = rel := by simp [relOf, hdec, Except.toOption]
  have his : isSwitch sw = true := by simp [isSwitch, hcmd]
  refine ⟨his, hrel, fun _ => ?_, fun hne => by simp [his] at hne⟩
  rw [hrel]
  exact ⟨hdec, h1⟩

/-! ### The invariant -/

/-- The cell a reader has taken up and not yet reordered. -/
def ReaderPhase.pending : ReaderPhase → List RelayCell
  | .multiplexed rc => [rc]
  | _ => []

/-- A reader at work: it neither passes cells by nor closes anything. -/
def ReaderPhase.isWorking : ReaderPhase → Bool
  | .unhandled _ => false
  | .closing _ => false
  | _ => true

namespace ConfluxNet

variable (s : ConfluxNet)

/-- The cells of a leg that the receiver has not counted yet. -/
def transit (l : Leg) : List RelayCell := (s.recv.phase l).pending ++ s.wire l

def numbersOf (l : Leg) : List (ℕ × RelayCell) :=
  numbersOn (s.recv.set.legs l).lastRecv (s.transit l)

/-- The numbers in transit and in the buffer, with those of leg `l` first. -/
def pool (l : Leg) : List (ℕ × RelayCell) :=
  s.numbersOf l ++ (s.numbersOf l.other ++ s.recv.set.ooo)

lemma pool_other {l : Leg} : (s.pool l.other).Perm (s.pool l) := by
  have hother : l.other.other = l := by cases l <;> rfl
  unfold pool
  rw [hother, ← append_assoc, ← append_assoc]
  exact perm_append_comm.append_right _

lemma pool_congr {s s' : ConfluxNet} {l : Leg} (hl : s'.numbersOf l = s.numbersOf l)
    (hother : s'.numbersOf l.other = s.numbersOf l.other)
    (hooo : s'.recv.set.ooo = s.recv.set.ooo) : s'.pool l = s.pool l := by
  rw [pool, pool, hl, hother, hooo]

/-- The receiver: nothing has gone wrong, and what it has released is the start of what was
sent. -/
structure Receiving (s : ConfluxNet) (a b : List RelayCell) : Prop where
  buffered : s.recv.set.Buffered
  handOver : s.recv.HandOver a b
  released : a ++ b <+: s.sent
  linked : s.recv.set.linked = true
  notClosed : s.recv.set.closed = false
  attached : ∀ l, s.recv.attached l = true
  isOpen : ∀ l, s.recv.isOpen l = true
  hops : ∀ l, s.recv.hops l ≠ 0
  errors : s.recv.errors = []
  working : ∀ l, (s.recv.phase l).isWorking = true

/-- The sender: the leg in use has sent everything, and the others lag behind. -/
structure Sending (s : ConfluxNet) : Prop where
  lastSent : s.sender.lastSent = s.sent.length
  legs : ∀ l, s.sender.legSent l ≤ s.sender.lastSent
  current : s.sender.legSent s.sender.current = s.sender.lastSent
  switched : ∀ l rc, s.sender.switched = some (l, rc) →
    s.sender.current = l ∧ confluxShouldMultiplex rc.command = true ∧ s.sender.closed = false

/-- The wires: on each leg the receiver will come to where the sender stands, and a SWITCH is
followed by a cell, unless its leg is up to date and its cell is under way or was lost. -/
structure OnWire (s : ConfluxNet) (l : Leg) : Prop where
  cells : ∀ rc ∈ s.wire l, SentCell rc
  chain : (s.wire l).IsChain fun x y => isSwitch x = true → isSwitch y = false
  last : ∀ rc, (s.wire l).getLast? = some rc → isSwitch rc = true → s.sender.legSent l = s.sender.lastSent ∧
      ((∃ rc', s.sender.switched = some (l, rc')) ∨ s.sender.closed = true)
  pending : ∀ rc ∈ (s.recv.phase l).pending, isSwitch rc = false
  count : countAfter (s.recv.set.legs l).lastRecv (s.transit l) = s.sender.legSent l

structure Honest (s : ConfluxNet) (a b : List RelayCell) : Prop where
  receiving : s.Receiving a b
  sending : s.Sending
  wire : ∀ l, s.OnWire l
  pool : ∀ l, (s.pool l).Perm
    (numbered (s.recv.set.lastRecv + 1) (s.sent.drop s.recv.set.lastRecv))

section Facts

variable {s : ConfluxNet} {a b : List RelayCell}

lemma Receiving.length (h : s.Receiving a b) : s.recv.set.lastRecv = (a ++ b).length := by
  rw [h.handOver.lastRecv, length_append]

lemma Receiving.lastRecv_le (h : s.Receiving a b) : s.recv.set.lastRecv ≤ s.sent.length := by
  rw [h.length]
  exact h.released.length_le

lemma Honest.lt_of_mem_pool (h : s.Honest a b) {l : Leg} {p : ℕ × RelayCell}
    (hp : p ∈ s.pool l) : s.recv.set.lastRecv < p.1 :=
  (fst_of_mem_numbered ((h.pool l).mem_iff.1 hp)).1

lemma Honest.pool_of_leg {s' : ConfluxNet} (l : Leg) (h : (s'.pool l).Perm
      (numbered (s'.recv.set.lastRecv + 1) (s'.sent.drop s'.recv.set.lastRecv))) (l' : Leg) :
    (s'.pool l').Perm
      (numbered (s'.recv.set.lastRecv + 1) (s'.sent.drop s'.recv.set.lastRecv)) := by
  rcases eq_or_other l l' with rfl | rfl
  · exact h
  · exact s'.pool_other.trans h

end Facts

/-! ### Sending -/

section Send

variable {s s' : ConfluxNet} {a b : List RelayCell} {l : Leg} {rc : RelayCell}

lemma Receiving.sent (h : s.Receiving a b) (hrecv : s'.recv = s.recv)
    (hsent : s.sent <+: s'.sent) : s'.Receiving a b where
  buffered := hrecv ▸ h.buffered
  handOver := hrecv ▸ h.handOver
  released := h.released.trans hsent
  linked := hrecv ▸ h.linked
  notClosed := hrecv ▸ h.notClosed
  attached := hrecv ▸ h.attached
  isOpen := hrecv ▸ h.isOpen
  hops := hrecv ▸ h.hops
  errors := hrecv ▸ h.errors
  working := hrecv ▸ h.working

def Followed (s : ConfluxNet) (l : Leg) : Prop :=
  ∀ rc, (s.wire l).getLast? = some rc → isSwitch rc = false

lemma OnWire.followed (h : s.OnWire l) (hopen : s.sender.closed = false)
    (hsw : ∀ rc, s.sender.switched ≠ some (l, rc)) : s.Followed l := by
  intro rc hlast
  by_contra hne
  obtain ⟨-, ⟨rc', hrc'⟩ | hclosed⟩ := h.last rc hlast (by simpa using hne)
  · exact hsw rc' hrc'
  · simp [hopen] at hclosed

lemma OnWire.untouched (h : s.OnWire l) (hrecv : s'.recv = s.recv)
    (hwire : s'.wire l = s.wire l) (hleg : s'.sender.legSent l = s.sender.legSent l)
    (hfol : s.Followed l) : s'.OnWire l where
  cells := hwire ▸ h.cells
  chain := hwire ▸ h.chain
  last rc hlast hsw := by
    rw [hwire] at hlast
    simp [hfol rc hlast] at hsw
  pending := hrecv ▸ h.pending
  count := by
    have hcount := h.count
    simp only [transit] at hcount ⊢
    rw [hrecv, hwire, hleg]
    exact hcount

@[simp] lemma put_self (s : ConfluxNet) : s.put l rc l = s.wire l ++ [rc] := update_self ..

@[simp] lemma put_other (s : ConfluxNet) (l : Leg) (rc : RelayCell) :
    s.put l rc l.other = s.wire l.other := update_of_ne l.other_ne ..

lemma transit_append (hrecv : s'.recv = s.recv) (hwire : s'.wire l = s.wire l ++ [rc]) :
    s'.transit l = s.transit l ++ [rc] := by
  rw [transit, transit, hrecv, hwire, append_assoc]

lemma OnWire.numbersOf_append (h : s.OnWire l) (hrecv : s'.recv = s.recv) (hwire : s'.wire l = s.wire l ++ [rc]) :
    s'.numbersOf l = s.numbersOf l ++ numbersOn (s.sender.legSent l) [rc] := by
  rw [numbersOf, numbersOf, transit_append hrecv hwire, hrecv, numbersOn_append, h.count]

lemma OnWire.append (h : s.OnWire l) (hrecv : s'.recv = s.recv)
    (hwire : s'.wire l = s.wire l ++ [rc]) (hrc : SentCell rc)
    (hchain : isSwitch rc = true → s.Followed l)
    (hleg : s'.sender.legSent l = countAfter (s.sender.legSent l) [rc])
    (hlast : isSwitch rc = true → s'.sender.legSent l = s'.sender.lastSent ∧
      ((∃ rc', s'.sender.switched = some (l, rc')) ∨ s'.sender.closed = true)) : s'.OnWire l where
  cells rc' hrc' := by
    rw [hwire, mem_append, mem_singleton] at hrc'
    rcases hrc' with hrc' | rfl
    · exact h.cells rc' hrc'
    · exact hrc
  chain := by
    rw [hwire, isChain_append]
    refine ⟨h.chain, List.IsChain.singleton _, fun x hx y hy hsw => ?_⟩
    obtain rfl : rc = y := by simpa using hy
    by_contra hne
    have hx' := hchain (by simpa using hne) x hx
    simp [hsw] at hx'
  last rc' hget hsw := by
    rw [hwire, List.getLast?_concat] at hget
    cases hget
    exact hlast hsw
  pending := hrecv ▸ h.pending
  count := by rw [transit_append hrecv hwire, countAfter_append, hrecv, h.count, hleg]

lemma Honest.sendCell (h : s.Honest a b) (hrc : confluxShouldMultiplex rc.command = true)
    (hcaught : s.sender.legSent l = s.sender.lastSent) (hother : s.Followed l.other) :
    (s.sendCell l rc).Honest a b := by
  obtain ⟨hcell, hsent⟩ := sentCell_of_multiplex hrc
  have hleg : (s.sendCell l rc).sender.legSent l = s.sender.lastSent + 1 :=
    update_self ..
  have hlegOther : (s.sendCell l rc).sender.legSent l.other = s.sender.legSent l.other :=
    update_of_ne l.other_ne ..
  refine ⟨h.receiving.sent rfl (prefix_append _ _), ?_, fun l' => ?_, Honest.pool_of_leg l ?_⟩
  · constructor
    · show s.sender.lastSent + 1 = (s.sent ++ [rc]).length
      rw [length_append, h.sending.lastSent]
      rfl
    · intro l'
      rcases eq_or_other l l' with rfl | rfl
      · exact hleg.le
      · rw [hlegOther]
        exact (h.sending.legs _).trans (Nat.le_succ _)
    · exact hleg
    · exact fun l' rc' h' => nomatch h'
  · rcases eq_or_other l l' with rfl | rfl
    · refine (h.wire l').append rfl s.put_self hsent (fun hsw => ?_) ?_ fun hsw => ?_
      · simp [hcell] at hsw
      · rw [hleg, countAfter_cell hcell, countAfter_nil, hcaught]
      · simp [hcell] at hsw
    · exact (h.wire l.other).untouched rfl (s.put_other l rc) hlegOther hother
  have hnum : (s.sendCell l rc).numbersOf l = _ :=
    (h.wire l).numbersOf_append rfl s.put_self
  rw [numbersOn_cell hcell, hcaught] at hnum
  have hnumOther : (s.sendCell l rc).numbersOf l.other = s.numbersOf l.other := by
    simp only [numbersOf, transit, ConfluxNet.sendCell, put_other]
  -- the new cell is the last of those to come
  have hrest : numbered (s.recv.set.lastRecv + 1) ((s.sent ++ [rc]).drop s.recv.set.lastRecv) =
      numbered (s.recv.set.lastRecv + 1) (s.sent.drop s.recv.set.lastRecv) ++ [(s.sender.lastSent + 1, rc)] := by
    have hle := h.receiving.lastRecv_le
    rw [drop_append_of_le_length hle, numbered_append, length_drop, h.sending.lastSent]
    have hnext : s.recv.set.lastRecv + 1 + (s.sent.length - s.recv.set.lastRecv) = s.sent.length + 1 := by omega
    rw [hnext]
    rfl
  show ((s.sendCell l rc).pool l).Perm
    (numbered (s.recv.set.lastRecv + 1) ((s.sent ++ [rc]).drop s.recv.set.lastRecv))
  rw [hrest, ConfluxNet.pool, hnum, hnumOther, append_assoc]
  refine (perm_append_comm.append_left _).trans ?_
  rw [← append_assoc]
  exact (h.pool l).append_right _

lemma Honest.sendSwitch {sw : RelayCell} (h : s.Honest a b)
    (hrc : confluxShouldMultiplex rc.command = true) (hopen : s.sender.closed = false)
    (hsw : isSwitch sw = true) (hsent : SentCell sw)
    (hrel : s.sender.legSent l + relOf sw = s.sender.lastSent) (hfol : ∀ l, s.Followed l) :
    { s with sender := s.sender.afterSwitch l rc, wire := s.put l sw }.Honest a b := by
  have hleg : (s.sender.afterSwitch l rc).legSent l = s.sender.lastSent := update_self ..
  have hlegOther : (s.sender.afterSwitch l rc).legSent l.other = s.sender.legSent l.other :=
    update_of_ne l.other_ne ..
  refine ⟨h.receiving.sent rfl (prefix_refl _), ?_, fun l' => ?_, Honest.pool_of_leg l ?_⟩
  · constructor
    · exact h.sending.lastSent
    · intro l'
      rcases eq_or_other l l' with rfl | rfl
      · exact hleg.le
      · exact hlegOther.le.trans (h.sending.legs _)
    · exact hleg
    · intro l' rc' h'
      cases h'
      exact ⟨rfl, hrc, hopen⟩
  · rcases eq_or_other l l' with rfl | rfl
    · refine (h.wire l').append rfl s.put_self hsent (fun _ => hfol l') ?_ fun _ => ?_
      · rw [countAfter_switch hsw, hrel]
        exact hleg
      · exact ⟨hleg, .inl ⟨rc, rfl⟩⟩
    · exact (h.wire l.other).untouched rfl (s.put_other l sw) hlegOther (hfol _)
  have hnum : { s with sender := s.sender.afterSwitch l rc, wire := s.put l sw }.numbersOf l =
      _ := (h.wire l).numbersOf_append rfl s.put_self
  rw [numbersOn_switch hsw, numbersOn_nil, append_nil] at hnum
  have hpool : ({ s with sender := s.sender.afterSwitch l rc, wire := s.put l sw }).pool l = s.pool l := by
    unfold ConfluxNet.pool
    rw [hnum]
    simp only [numbersOf, transit, put_other]
  rw [hpool]
  exact h.pool l

lemma Honest.send (h : s.Honest a b) (hrc : confluxShouldMultiplex rc.command = true)
    (hopen : s.sender.closed = false) (hsw : s.sender.switched = none)
    (hs : s.send l rc = some s') : s'.Honest a b := by
  have hfol (l' : Leg) : s.Followed l' := (h.wire l').followed hopen (by simp [hsw])
  have hle := h.sending.legs l
  unfold ConfluxNet.send ConfluxSend.needSwitch at hs
  dsimp only at hs
  split_ifs at hs with hcur hbig hgap
  · cases hs
    exact h.sendCell hrc (hcur ▸ h.sending.current) (hfol _)
  · dsimp only at hs
    split at hs
    · cases hs
    next sw hnew =>
    cases hs
    obtain ⟨his, hrel, hsent⟩ := switchCell_eq hgap (by omega) hnew
    exact h.sendSwitch hrc hopen his hsent (by omega) hfol
  · cases hs
    exact h.sendCell hrc (by omega) (hfol _)

lemma Honest.abandon (h : s.Honest a b) :
    { s with sender := { s.sender with switched := none, closed := true } }.Honest a b := by
  refine ⟨h.receiving.sent rfl (prefix_refl _), ?_, fun l => ?_, h.pool⟩
  · exact { h.sending with switched := fun _ _ h' => nomatch h' }
  · have hw := h.wire l
    exact { hw with last := fun rc hlast hsw => ⟨(hw.last rc hlast hsw).1, .inr rfl⟩ }

lemma Honest.finish (h : s.Honest a b) (hsw : s.sender.switched = some (l, rc)) : (s.sendCell l rc).Honest a b := by
  obtain ⟨rfl, hrc, hopen⟩ := h.sending.switched l rc hsw
  refine h.sendCell hrc h.sending.current ((h.wire _).followed hopen fun rc' h' => ?_)
  rw [hsw] at h'
  exact other_ne _ (congrArg Prod.fst (Option.some.inj h')).symm

end Send

end ConfluxNet

end GoTor.Circuit

import GoTor.Circuit.SendmeQueue
import GoTor.Relay.ExitStream

/-!
# What the reader of an exit circuit does

The goroutine of the client's connection handles one recognised cell after the other.  All that it
does apart from counting DATA cells and answering them leaves the count alone, and so do the pumps.
-/

namespace GoTor.Relay

open GoTor.Lib GoTor.Cell ExitState
open GoTor.Crypto (payloadLen)
open GoTor.Circuit (VegasWindow encodeSendmeV1 TagLen)

def CircSendme (rc : RelayCell) : Prop := rc.command = relaySendme ∧ rc.streamID = 0

instance : DecidablePred CircSendme := fun _ => inferInstanceAs (Decidable (_ ∧ _))

/-- A section that neither counts cells nor answers them. -/
def Quiet : ExitAct → Prop
  | .noteFwdDigest _ _ => False
  | .countData _ => False
  | .closeCircuit => False
  | .circuitGone => False
  | .writeCell rc => ¬ CircSendme rc
  | _ => True

/-! ### The sections with a cell -/

section Cells

variable {s s' : ExitState} {t : ExitTid}

lemma ExitState.exec_originate {rc : RelayCell} {ch : ExitChoice} {r : Except String Bytes}
    (h : exec t (.originate rc) ch s = some (r, s')) :
    (∃ e, s.circ.encodeRelay rc = .error e ∧ r = .error e ∧ s' = s) ∨
      ∃ tag, TagLen tag ∧ r = .ok tag ∧ s' = s.originate t rc tag := by
  simp only [exec] at h
  split at h
  next e he =>
    cases h
    exact .inl ⟨e, he, rfl, rfl⟩
  next =>
    split at h
    next hlen =>
      cases h
      exact .inr ⟨_, hlen, rfl, rfl⟩
    next => cases h
  next => cases h

lemma ExitState.exec_writeCell {rc : RelayCell} {ch : ExitChoice} {r : Except String Unit}
    (h : exec t (.writeCell rc) ch s = some (r, s')) :
    (∃ e, r = .error e ∧ s' = s.writeFailed t rc) ∨ (s.connOpen = true ∧ r = .ok () ∧ s' = s.written rc) := by
  cases ch with
  | fail e =>
    cases h
    exact .inl ⟨e, rfl, rfl⟩
  | _ =>
    simp only [exec] at h
    split at h
    next hopen =>
      cases h
      exact .inr ⟨hopen, rfl, rfl⟩
    next => cases h

end Cells

/-! ### What the other sections leave alone -/

/-- The increment of the circuit is `inc`, and its congestion control is set up. -/
def ExitCircuit.FlowIs (inc : ℕ) (c : ExitCircuit) : Prop :=
  c.flowOf.increment = inc ∧ (c.ccEnabled = true → c.flowOf.vegas.isSome)

/-- The count and its digest stay, and the increment with them. -/
structure ExitCircuit.SameCount (c c' : ExitCircuit) : Prop where
  inCount : c'.circInCount = c.circInCount
  digest : c'.lastFwdDigest = c.lastFwdDigest
  flow : ∀ inc, c.FlowIs inc → c'.FlowIs inc

section SameCount

variable {c c' : ExitCircuit}

lemma ExitCircuit.SameCount.refl : c.SameCount c := ⟨rfl, rfl, fun _ h => h⟩

open ExitCircuit

lemma ExitCircuit.FlowIs.vegas {inc : ℕ} (h : c.FlowIs inc) {v' : VegasWindow}
    (hflow : c'.circCC = some { c.flowOf with vegas := some v' }) : c'.FlowIs inc := by
  have hof : c'.flowOf = { c.flowOf with vegas := some v' } := by
    unfold flowOf
    rw [hflow]
    rfl
  refine ⟨?_, fun _ => ?_⟩
  · rw [hof]
    exact h.1
  · rw [hof]
    rfl

variable {i : UInt16}

lemma sameCount_takeData : c.SameCount (c.takeData i).2 := by
  unfold takeData
  split
  · exact .refl
  · split
    · exact .refl
    · exact ⟨rfl, rfl, fun _ h => h⟩

lemma sameCount_endFirst : c.SameCount (c.endFirst i).2 := by
  unfold endFirst
  split
  · exact .refl
  · split
    · exact ⟨rfl, rfl, fun _ h => h⟩
    · exact ⟨rfl, rfl, fun _ h => h⟩

lemma sameCount_dropOld : c.SameCount (c.dropOld i) := by
  unfold dropOld
  split
  · exact ⟨rfl, rfl, fun _ h => h⟩
  · exact .refl

lemma sameCount_removeStream : c.SameCount (c.removeStream i) := by
  unfold removeStream
  split
  · exact ⟨rfl, rfl, fun _ h => h⟩
  · exact .refl

lemma sameCount_insertStream (i : UInt16) (tcp : Bool) : c.SameCount (c.insertStream i tcp) := by
  unfold insertStream
  dsimp only
  split
  next hcc =>
    unfold ExitCircuit.ensureCC
    split
    · exact ⟨rfl, rfl, fun _ h => h⟩
    next hnone =>
    refine ⟨rfl, rfl, fun inc h => ?_⟩
    have hvegas : c.flowOf.vegas.isSome := h.2 hcc
    rw [show c.flowOf.vegas = none from hnone] at hvegas
    cases hvegas
  next => exact ⟨rfl, rfl, fun _ h => h⟩

lemma sameCount_afterOutboundDATA {tag : Bytes} : c.SameCount (c.afterOutboundDATA i tag) := by
  unfold afterOutboundDATA
  dsimp only
  split
  next => exact ⟨rfl, rfl, fun inc h => h.vegas rfl⟩
  next => exact ⟨rfl, rfl, fun _ h => h⟩

lemma sameCount_handleSendme {payload : Bytes} {cwnd : ℕ}
    (h : c.handleSendme i payload cwnd = .ok c') : c.SameCount c' := by
  obtain ⟨-, streams, rfl⟩ | ⟨-, digest, rest, -, hcase⟩ := handleSendme_cases h
  · exact ⟨rfl, rfl, fun _ h => h⟩
  · obtain ⟨v, -, rfl⟩ | ⟨-, rfl⟩ := hcase
    · exact ⟨rfl, rfl, fun inc h => h.vegas rfl⟩
    · exact ⟨rfl, rfl, fun _ h => h⟩

end SameCount

/-! ### Opening and closing streams -/

/-- The sections that change the table of streams, and the questions to the world. -/
def ExitAct.Plain : ExitAct → Prop
  | .outside _ | .takeData _ | .handleSendme _ _ | .endFirst _ | .deleteStream _ | .dropOld _
  | .streamLimit | .takeSlot | .releaseSlot | .insertStream _ _ _ | .spawn _ _ | .start _
  | .removeStream _ => True
  | _ => False

/-- A property of sections that streams can be opened and closed with. -/
structure Opens (P : ExitAct → Prop) : Prop where
  plain : ∀ {a : ExitAct}, a.Plain → P a
  sendEnd : ∀ i reason, (sendEnd i reason).Always P
  connected : ∀ i data, (sendRelay i relayConnected data).Always P

open Prog.Always

section Opens

variable {P : ExitAct → Prop} (h : Opens P)
include h

variable {i : UInt16}

lemma Opens.handleEnd : (handleEnd i).Always P := by
  refine lift_bind (h.plain trivial) fun second => ?_
  split
  · exact ⟨h.plain trivial, fun _ => trivial⟩
  · trivial

lemma Opens.handleBegin {pump : ℕ} : (handleBegin pump i).Always P := by
  refine lift_bind (h.plain trivial) fun allowed => ?_
  split
  · exact h.sendEnd _ _
  refine lift_bind (h.plain trivial) fun _ => ?_
  refine lift_bind (h.plain trivial) fun full => ?_
  split
  · exact h.sendEnd _ _
  refine lift_bind (h.plain trivial) fun dialed => ?_
  split
  · refine (h.connected _ _).bind ?_
    rintro (e | _)
    · trivial
    · exact ⟨h.plain trivial, fun _ => ⟨h.plain trivial, fun _ => trivial⟩⟩
  · exact h.sendEnd _ _
  · trivial

lemma Opens.handleBeginDir {pump : ℕ} : (handleBeginDir pump i).Always P := by
  refine lift_bind (h.plain trivial) fun allowed => ?_
  split
  · exact h.sendEnd _ _
  refine lift_bind (h.plain trivial) fun full => ?_
  split
  · exact h.sendEnd _ _
  refine lift_bind (h.plain trivial) fun dialed => ?_
  split
  · exact ⟨h.plain trivial, fun _ => h.sendEnd _ _⟩
  refine lift_bind (h.plain trivial) fun _ => ?_
  refine (h.connected _ _).bind ?_
  rintro (e | _)
  · exact ⟨h.plain trivial, fun _ => trivial⟩
  · exact ⟨h.plain trivial, fun _ => trivial⟩

end Opens

/-! ### The phases of the reader -/

/-- Where the reader is with a DATA cell: nowhere, before it counts the cell, about to send a
SENDME for it; or the circuit is gone. -/
inductive ReadPhase
  | idle
  | noted
  | owing (digest : Bytes)
  | closed

/-- What the reader does, in a run in which every DATA cell is passed on. -/
def readContract : Contract ExitAct ExitAct.Resp ReadPhase where
  pre ph
    | .noteFwdDigest _ digest => ph = .idle ∧ TagLen digest
    | .countData _ => ph = .noted
    | .closeCircuit => ph = .idle
    | .circuitGone => ph = .idle ∨ ph = .closed
    | .writeCell rc => CircSendme rc → ∃ digest, ph = .owing digest ∧ encodeSendmeV1 digest = .ok rc.data
    | _ => True
  post ph
    | .noteFwdDigest data _, _, ph' => ph' = if data then .noted else .idle
    | .takeData i, r, ph' => ph' = ph ∧ r = .opened ∧ i ≠ 0
    | .outside o, r, ph' => ph' = ph ∧ (o = .bwWait ∨ (∃ data, o = .writeRemote data) → r.failed = false)
    | .countData _, r, ph' => match r.1 with
      | some digest => ph' = .owing digest ∧ TagLen digest
      | none => ph' = .idle
    | .originate rc, r, ph' => ph' = ph ∧ (CircSendme rc → rc.data.length ≤ 23 → ∃ tag, r = .ok tag)
    | .writeCell rc, _, ph' => ph' = if CircSendme rc then .idle else ph
    | .closeCircuit, _, ph' => ph' = .closed
    | .circuitGone, r, ph' => ph' = ph ∧ (r = true ↔ ph = .closed)
    | _, _, ph' => ph' = ph

def pumpContract : Contract ExitAct ExitAct.Resp ReadPhase where
  pre _ := Quiet
  post ph _ _ ph' := ph' = ph

section Meets

variable {R : Type} {ph : ReadPhase} {p : ExitProg R}

lemma meets_quiet_read (hp : p.Always Quiet) : Meets readContract ph p fun ph' _ => ph' = ph := by
  refine meets_of_always (I := fun ph' => ph' = ph) ?_ hp rfl
  rintro ph' a rfl hquiet
  cases a with
  | noteFwdDigest data digest | countData i | closeCircuit | circuitGone => exact hquiet.elim
  | writeCell rc => exact ⟨fun h => absurd h hquiet, fun r ph' h => h.trans (if_neg hquiet)⟩
  | takeData i | outside o | originate rc => exact ⟨trivial, fun r ph' h => h.1⟩
  | _ => exact ⟨trivial, fun r ph' h => h⟩

lemma newRelayCell_of_small (i : UInt16) (cmd : UInt8) {data : Bytes} (h : data.length ≤ 23) :
    ∃ rc, newRelayCell i cmd data = .ok rc := by
  refine ⟨{ command := cmd, streamID := i, length := UInt16.ofNat data.length, data }, ?_⟩
  have hfit : ¬ data.length > payloadLen - relayCellHeaderLen := by
    show ¬ data.length > 498
    omega
  unfold newRelayCell safeLenToUint16
  rw [if_neg hfit, if_neg (by omega)]
  rfl

variable {data : Bytes} {i : UInt16} {circID : UInt32}

lemma quiet_sendRelay {cmd : UInt8} (h : cmd ≠ relaySendme ∨ i ≠ 0) : (sendRelay i cmd data).Always Quiet := by
  unfold sendRelay
  split
  · trivial
  next rc hrc =>
  obtain ⟨hcmd, hstream, -⟩ := newRelayCell_eq_ok hrc
  have hnot : ¬ CircSendme rc := by
    rintro ⟨hsendme, hzero⟩
    obtain h | h := h
    · exact h (hcmd.symm.trans hsendme)
    · exact h (hstream.symm.trans hzero)
  refine ⟨trivial, ?_⟩
  rintro (e | tag)
  · trivial
  refine ⟨hnot, ?_⟩
  rintro (e | _)
  · trivial
  split
  · exact ⟨trivial, fun _ => trivial⟩
  · trivial

lemma quiet_sendEnd (i : UInt16) (reason : UInt8) : (sendEnd i reason).Always Quiet :=
  quiet_sendRelay (.inl (by decide))

lemma quiet_plain {a : ExitAct} (h : a.Plain) : Quiet a := by
  cases a with
  | noteFwdDigest data digest | countData i | closeCircuit | circuitGone | writeCell rc =>
    exact h.elim
  | _ => trivial

lemma quiet_opens : Opens Quiet :=
  ⟨quiet_plain, quiet_sendEnd, fun _ _ => quiet_sendRelay (.inl (by decide))⟩

lemma quiet_waitOutWindow (tries : ℕ) : (waitOutWindow i tries).Always Quiet := by
  induction tries with
  | zero => trivial
  | succ tries ih =>
    refine lift_bind trivial fun may => ?_
    rcases may with _ | _ | _
    · trivial
    · refine lift_bind trivial fun ctx => ?_
      split
      · trivial
      · exact ih
    · trivial

lemma quiet_pumpData : (pumpData i data).Always Quiet := by
  unfold pumpData
  split
  · trivial
  refine lift_bind trivial fun bw => ?_
  split
  · trivial
  refine (quiet_sendRelay (.inl (by decide))).bind ?_
  rintro (e | _)
  · trivial
  · trivial

lemma quiet_pump (rounds : ℕ) : (pumpRemoteToClient i rounds).Always Quiet := by
  have hleave : (Prog.lift (ExitAct.removeStream i) : ExitProg Unit).Always Quiet :=
    ⟨trivial, fun _ => trivial⟩
  induction rounds with
  | zero => exact hleave
  | succ rounds ih =>
    refine lift_bind trivial fun ctx => ?_
    split
    · exact hleave
    refine (quiet_waitOutWindow rounds).bind fun may => ?_
    split
    · refine lift_bind trivial fun got => ?_
      split
      · refine quiet_pumpData.bind fun sent => ?_
        split
        · exact hleave
        · split
          · exact (quiet_sendEnd _ _).bind fun _ => hleave
          · exact ih
      · exact hleave
    · exact hleave

lemma length_encodeSendmeV1 {digest payload : Bytes} (h : encodeSendmeV1 digest = .ok payload) :
    payload.length ≤ 23 := by
  unfold encodeSendmeV1 at h
  split at h
  · cases h
  next hlen =>
  cases h
  simp only [List.length_append, length_putUint16, List.length_singleton]
  omega

lemma meets_sendCircSendme {digest : Bytes} (h : TagLen digest) :
    Meets readContract (.owing digest) (sendCircSendme digest) fun ph' _ => ph' = .idle := by
  obtain ⟨payload, hencode, -⟩ := Circuit.decodeSendme_encodeSendmeV1 h
  have hlen := length_encodeSendmeV1 hencode
  obtain ⟨rc, hrc⟩ := newRelayCell_of_small 0 relaySendme hlen
  obtain ⟨hcmd, hstream, hdata⟩ := newRelayCell_eq_ok hrc
  have hcirc : CircSendme rc := ⟨hcmd, hstream⟩
  unfold sendCircSendme sendRelay
  simp only [hencode, hrc]
  refine ⟨trivial, ?_⟩
  rintro r ph' ⟨rfl, hok⟩
  obtain ⟨tag, rfl⟩ := hok hcirc (by rw [hdata]; exact hlen)
  refine ⟨fun _ => ⟨digest, rfl, by rw [hdata]; exact hencode⟩, ?_⟩
  rintro (e | _) ph' hph'
  · exact hph'.trans (if_pos hcirc)
  · rw [if_neg (by decide)]
    exact hph'.trans (if_pos hcirc)

lemma meets_sendDue (hi : i ≠ 0) {circDigest : Option Bytes} {sendStream : Bool} (h : match circDigest with
      | some digest => ph = .owing digest ∧ TagLen digest
      | none => ph = .idle) :
    Meets readContract ph (sendDue i circDigest sendStream) fun ph' _ => ph' = .idle := by
  have hcirc : Meets readContract ph (circDigest.elim (pure ()) sendCircSendme) fun ph' _ =>
      ph' = .idle := by
    cases circDigest with
    | some digest =>
      obtain ⟨rfl, hlen⟩ := h
      exact meets_sendCircSendme hlen
    | none => exact h
  refine (meets_bind ..).2 (hcirc.imp ?_)
  rintro ph' _ rfl
  cases sendStream with
  | true =>
    exact (meets_bind ..).2 ((meets_quiet_read (quiet_sendRelay (.inr hi))).imp fun _ _ h => h)
  | false => rfl

lemma meets_handleData :
    Meets readContract .noted (handleData circID i data) fun ph' _ => ph' = .idle := by
  unfold handleData
  simp only [Prog.bind_eq, Prog.lift_bind]
  refine ⟨trivial, ?_⟩
  rintro r ph' ⟨rfl, rfl, hi⟩
  refine ⟨trivial, ?_⟩
  rintro bw ph' ⟨rfl, hbw⟩
  dsimp only
  split
  · exact absurd (hbw (.inl rfl)) nofun
  refine ⟨trivial, ?_⟩
  rintro wr ph' ⟨rfl, hwr⟩
  dsimp only
  split
  · exact absurd (hwr (.inr ⟨_, rfl⟩)) nofun
  · refine ⟨rfl, ?_⟩
    rintro ⟨circDigest, sendStream⟩ ph' hph'
    exact meets_sendDue hi hph'

lemma meets_handleRecognised {cell : ExitCell} :
    Meets readContract .idle (handleRecognised circID cell) fun ph' _ =>
      ph' = .idle ∨ ph' = .closed := by
  have hquiet {R : Type} {p : ExitProg R} (hp : p.Always Quiet) :
      Meets readContract .idle p fun ph' _ => ph' = .idle ∨ ph' = .closed :=
    (meets_quiet_read hp).imp fun _ _ h => .inl h
  refine ⟨⟨rfl, cell.digest_len⟩, ?_⟩
  rintro _ ph' rfl
  by_cases hdata : cell.rc.command = relayData
  · rw [if_pos (decide_eq_true hdata), if_neg (by rw [hdata]; decide), if_neg (by rw [hdata]; decide), if_pos hdata]
    exact meets_handleData.imp fun _ _ h => .inl h
  rw [if_neg (by simpa using hdata)]
  split
  · exact hquiet quiet_opens.handleBegin
  split
  · exact hquiet quiet_opens.handleBeginDir
  split
  · refine ⟨trivial, ?_⟩
    rintro (e | _) ph' rfl
    · exact ⟨rfl, fun _ ph' h => .inr h⟩
    · exact .inl rfl
  · split
    · exact hquiet (quiet_opens.handleEnd.bind fun _ => trivial)
    · exact .inl rfl

lemma meets_exitReader (cells : List ExitCell) (h : ph = .idle ∨ ph = .closed) :
    Meets readContract ph (exitReader circID cells) fun _ _ => True := by
  induction cells generalizing ph with
  | nil => trivial
  | cons cell cells ih =>
    unfold exitReader
    simp only [Prog.bind_eq, Prog.lift_bind]
    refine ⟨h, ?_⟩
    rintro gone ph' ⟨rfl, hgone⟩
    dsimp only
    split
    · trivial
    next hhere =>
    have hidle : ph' = .idle := h.resolve_right fun hclosed => hhere (hgone.2 hclosed)
    subst hidle
    exact (meets_bind ..).2 (meets_handleRecognised.imp fun _ _ h => ih h)

end Meets

end GoTor.Relay

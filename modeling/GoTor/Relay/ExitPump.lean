import GoTor.Relay.ExitReader

/-!
# The pumps of an exit circuit

Before a pump reads the remote end it checks that the circuit window is open; it encrypts the DATA
cell, writes it, and only then takes it out of the window and, at every `inc`-th cell, queues its
tag.  No lock is held from the check to the accounting.  So the window is kept and the queue is in
the order of encryption as long as there is room for every pump past the check and no cell is
encrypted while another one is still to be accounted for.
-/

namespace GoTor.Relay

open GoTor.Lib GoTor.Cell

/-! ### The phases of a pump -/

/-- Where a goroutine is with a DATA cell: before the window check, past it, or past the
encryption. -/
inductive PumpPhase
  | out
  | admitted
  | sending (tag : Bytes)
  deriving DecidableEq

def PumpPhase.Free (ph : PumpPhase) : Prop := ∀ tag, ph ≠ .sending tag

def windowContract : Contract ExitAct ExitAct.Resp PumpPhase where
  pre ph
    | .mayPump _ => ph.Free
    | .originate rc => rc.command = relayData → ph = .admitted
    | .writeCell rc => rc.command = relayData → ∃ tag, ph = .sending tag
    | .afterOutboundDATA _ tag => ph = .sending tag
    | .removeStream _ => ph.Free
    | _ => True
  post ph
    | .mayPump _, r, ph' => ph' = if r = some true then .admitted else ph
    | .originate rc, .ok tag, ph' => ph' = if rc.command = relayData then .sending tag else ph
    | .writeCell rc, .error _, ph' => ph' = if rc.command = relayData then .out else ph
    | .afterOutboundDATA _ _, _, ph' => ph' = .out
    | .removeStream _, _, ph' => ph' = .out
    | _, _, ph' => ph' = ph

section Meets

variable {R : Type} {ph : PumpPhase} {p : ExitProg R}

def NoData : ExitAct → Prop
  | .mayPump _ => False
  | .originate rc => rc.command ≠ relayData
  | .writeCell rc => rc.command ≠ relayData
  | .afterOutboundDATA _ _ => False
  | _ => True

lemma free_out : PumpPhase.out.Free := nofun

lemma free_admitted : PumpPhase.admitted.Free := nofun

lemma meets_noData (hp : p.Always NoData) (hph : ph.Free) : Meets windowContract ph p fun ph' _ => ph'.Free := by
  refine meets_of_always (I := PumpPhase.Free) ?_ hp hph
  rintro ph a hfree hno
  cases a with
  | mayPump i | afterOutboundDATA i tag => exact hno.elim
  | removeStream i =>
    refine ⟨hfree, ?_⟩
    rintro _ ph' rfl
    exact free_out
  | originate rc =>
    refine ⟨fun h => absurd h hno, ?_⟩
    rintro (e | tag) ph' h
    · exact h ▸ hfree
    · exact h.trans (if_neg hno) ▸ hfree
  | writeCell rc =>
    refine ⟨fun h => absurd h hno, ?_⟩
    rintro (e | _) ph' h
    · exact h.trans (if_neg hno) ▸ hfree
    · exact h ▸ hfree
  | _ => exact ⟨trivial, fun r ph' h => h ▸ hfree⟩

variable {i : UInt16} {data : Bytes} {circID : UInt32}

lemma noData_sendRelay {cmd : UInt8} (h : cmd ≠ relayData) : (sendRelay i cmd data).Always NoData := by
  unfold sendRelay
  split
  · trivial
  next rc hrc =>
  obtain ⟨hcmd, -, -⟩ := newRelayCell_eq_ok hrc
  rw [← hcmd] at h
  refine ⟨h, ?_⟩
  rintro (e | tag)
  · trivial
  refine ⟨h, ?_⟩
  rintro (e | _)
  · trivial
  · dsimp only
    rw [if_neg (hcmd ▸ h)]
    trivial

lemma meets_sendData :
    Meets windowContract .admitted (sendRelay i relayData data) fun ph' _ => ph'.Free := by
  unfold sendRelay
  split
  · exact free_admitted
  next rc hrc =>
  obtain ⟨hcmd, -, -⟩ := newRelayCell_eq_ok hrc
  refine ⟨fun _ => rfl, ?_⟩
  rintro (e | tag) ph' hph'
  · exact hph' ▸ free_admitted
  obtain rfl : ph' = .sending tag := hph'.trans (if_pos hcmd)
  refine ⟨fun _ => ⟨tag, rfl⟩, ?_⟩
  rintro (e | _) ph' hph'
  · exact hph'.trans (if_pos hcmd) ▸ free_out
  obtain rfl : ph' = .sending tag := hph'
  refine ⟨rfl, ?_⟩
  rintro _ ph' rfl
  exact free_out

lemma meets_waitOutWindow (tries : ℕ) (hph : ph.Free) : Meets windowContract ph (waitOutWindow i tries) fun ph' r =>
      ph'.Free ∧ (r = true → ph' = .admitted) := by
  induction tries generalizing ph with
  | zero => exact ⟨hph, nofun⟩
  | succ tries ih =>
    refine ⟨hph, ?_⟩
    rintro may ph' rfl
    rcases may with _ | _ | _
    · exact ⟨hph, nofun⟩
    · refine ⟨trivial, ?_⟩
      rintro ctx ph' rfl
      simp only [Prog.done_bind]
      split
      · exact ⟨hph, nofun⟩
      · exact ih hph
    · exact ⟨free_admitted, fun _ => rfl⟩

lemma meets_pumpData : Meets windowContract .admitted (pumpData i data) fun ph' _ => ph'.Free := by
  unfold pumpData
  split
  · exact free_admitted
  refine ⟨trivial, ?_⟩
  rintro bw ph' rfl
  simp only [Prog.done_bind]
  split
  · exact free_admitted
  refine (meets_bind ..).2 (meets_sendData.imp ?_)
  rintro ph' (e | _) hfree
  · exact hfree
  · exact hfree

lemma meets_pump (rounds : ℕ) (hph : ph.Free) :
    Meets windowContract ph (pumpRemoteToClient i rounds) fun _ _ => True := by
  have hleave {ph : PumpPhase} (hph : ph.Free) :
      Meets windowContract ph (Prog.lift (ExitAct.removeStream i)) fun _ _ => True :=
    ⟨hph, fun _ _ _ => trivial⟩
  induction rounds generalizing ph with
  | zero => exact hleave hph
  | succ rounds ih =>
    unfold pumpRemoteToClient
    simp only [Prog.bind_eq, Prog.lift_bind]
    refine ⟨trivial, ?_⟩
    rintro ctx ph' rfl
    dsimp only
    split
    · exact hleave hph
    refine (meets_bind ..).2 ((meets_waitOutWindow rounds hph).imp ?_)
    rintro ph' may ⟨hfree, hmay⟩
    split
    next hgo =>
      obtain rfl : ph' = .admitted := hmay hgo
      refine ⟨trivial, ?_⟩
      rintro got ph' rfl
      dsimp only
      split
      · refine (meets_bind ..).2 (meets_pumpData.imp ?_)
        rintro ph' sent hfree
        split
        · exact hleave hfree
        split
        · refine (meets_bind ..).2 ((meets_noData (noData_sendRelay (by decide)) hfree).imp ?_)
          rintro ph' _ hfree
          exact hleave hfree
        · exact ih hfree
      · exact hleave free_admitted
    next => exact hleave hfree

lemma noData_opens : Opens NoData := by
  refine ⟨?_, fun _ _ => noData_sendRelay (by decide), fun _ _ => noData_sendRelay (by decide)⟩
  intro a h
  cases a with
  | mayPump i | originate rc | writeCell rc | afterOutboundDATA i tag => exact h.elim
  | _ => trivial

lemma noData_sendDue {circDigest : Option Bytes} {sendStream : Bool} :
    (sendDue i circDigest sendStream).Always NoData := by
  have hcirc : (circDigest.elim (pure ()) sendCircSendme : ExitProg Unit).Always NoData := by
    cases circDigest with
    | none => trivial
    | some digest =>
      show (sendCircSendme digest).Always NoData
      unfold sendCircSendme
      split
      · trivial
      · exact (noData_sendRelay (by decide)).bind fun _ => trivial
  refine hcirc.bind fun _ => ?_
  cases sendStream with
  | true => exact (noData_sendRelay (by decide)).bind fun _ => trivial
  | false => trivial

open Prog.Always

lemma noData_handleData : (handleData circID i data).Always NoData := by
  refine lift_bind trivial ?_
  rintro (_ | _ | _)
  · trivial
  · exact noData_opens.sendEnd _ _
  refine lift_bind trivial fun bw => ?_
  split
  · trivial
  refine lift_bind trivial fun wr => ?_
  split
  · exact noData_opens.sendEnd _ _
  · exact ⟨trivial, fun _ => noData_sendDue⟩

lemma noData_exitReader (cells : List ExitCell) : (exitReader circID cells).Always NoData := by
  induction cells with
  | nil => trivial
  | cons cell cells ih =>
    refine lift_bind trivial fun gone => ?_
    split
    · trivial
    refine bind ?_ fun _ => ih
    refine lift_bind trivial fun _ => ?_
    split
    · exact noData_opens.handleBegin
    split
    · exact noData_opens.handleBeginDir
    split
    · exact noData_handleData
    split
    · refine lift_bind trivial ?_
      rintro (e | _)
      · exact ⟨trivial, fun _ => trivial⟩
      · trivial
    · split
      · exact noData_opens.handleEnd.bind fun _ => trivial
      · trivial

end Meets

end GoTor.Relay

import GoTor.Circuit.DataSend
import GoTor.Relay.Create

/-!
# The streams of an exit

The tables that `ExitStreamManager` keeps for one circuit, and the goroutines that work on them:
the one that reads the client's connection handles the recognised relay cells one after the other,
and every open stream has a pump that reads the remote end and sends DATA cells back.  Encryption
is seen only by the tag it gives a cell; the remote ends, the bandwidth limiter and the network
answer as they like.
-/

namespace GoTor.Relay

open GoTor.Lib GoTor.Cell
open GoTor.Circuit (VegasWindow encodeSendmeV1)

def exitCircWindowInit : ℤ := 1000
def exitStreamWindowInit : ℤ := 500
def exitStreamSendmeInc : ℕ := 50
def exitMaxStreamsPerCirc : ℤ := 100
def exitMaxStreamOutWindow : ℤ := 1000

def endReasonMisc : UInt8 := 1
def endReasonResourceLimit : UInt8 := 11
def endReasonConnReset : UInt8 := 12

structure ExitStream where
  /-- The connection is a `net.TCPConn`, which can be closed for writing only. -/
  tcp : Bool := true
  packageWindow : ℤ := exitStreamWindowInit
  deliverWindow : ℤ := exitStreamWindowInit
  deliverCount : ℕ := 0
  halfClosed : Bool := false
  deriving DecidableEq

/-- What the second section of `HandleData` does to the stream, and whether a stream-level SENDME
is due. -/
def ExitStream.delivered (es : ExitStream) (cc : Bool) : ExitStream × Bool :=
  if cc then
    ({ es with deliverWindow := min (es.deliverWindow + 1) exitMaxStreamOutWindow }, false)
  else if es.deliverCount + 1 ≥ exitStreamSendmeInc then
    ({ es with
      deliverCount := 0
      deliverWindow := min (es.deliverWindow + exitStreamSendmeInc) exitMaxStreamOutWindow }, true)
  else ({ es with deliverCount := es.deliverCount + 1 }, false)

/-- `circFlow`, with the window of the Vegas state machine. -/
structure ExitFlow where
  sendmeInc : ℕ
  vegas : Option VegasWindow
  deriving DecidableEq

def ExitFlow.increment (flow : ExitFlow) : ℕ :=
  if flow.sendmeInc > 0 then flow.sendmeInc else exitCircSendmeInc

/-- The fields of the circuit that the exit reads, and its entries in the manager's tables. -/
structure ExitCircuit where
  circuitID : UInt32
  ccEnabled : Bool
  sendmeInc : ℕ
  usesCGO : Bool
  /-- The first congestion window of the consensus. -/
  cwndInit : ℕ
  circCC : Option ExitFlow := none
  streams : UInt16 → Option ExitStream := fun _ => none
  circOutWindow : Option ℤ := none
  circInCount : ℕ := 0
  circStreams : ℤ := 0
  lastFwdDigest : Bytes := []
  circExpectedSendme : List Bytes := []

/-- What `HandleData` finds for a stream. -/
inductive DataTarget
  | unknown
  | exhausted
  | opened
  deriving DecidableEq

namespace ExitCircuit

variable (c : ExitCircuit)

def flowOf : ExitFlow := c.circCC.getD ⟨exitCircSendmeInc, none⟩

/-- `ensureCCLocked`: an existing state machine is kept. -/
def ensureCC : ExitCircuit :=
  match c.flowOf.vegas with
  | some _ => c
  | none =>
    let vegas : VegasWindow := ⟨0, c.cwndInit⟩
    let sendmeInc := if c.sendmeInc > 0 then c.sendmeInc else ccSendmeIncDefault
    { c with
      circCC := some ⟨sendmeInc, some vegas⟩
      circOutWindow := some (c.circOutWindow.getD vegas.packageWindow) }

def setStream (streamID : UInt16) (es : Option ExitStream) : ExitCircuit :=
  { c with streams := Function.update c.streams streamID es }

def noteFwdDigest (digest : Bytes) : ExitCircuit :=
  if digest.length ≠ 20 ∧ digest.length ≠ 16 then c else { c with lastFwdDigest := digest }

/-- The first section of `HandleData`. -/
def takeData (streamID : UInt16) : DataTarget × ExitCircuit :=
  match c.streams streamID with
  | none => (.unknown, c)
  | some es =>
    if es.deliverWindow ≤ 0 then (.exhausted, c)
    else (.opened, c.setStream streamID (some { es with deliverWindow := es.deliverWindow - 1 }))

/-- The second section of `HandleData`: the digest for a circuit-level SENDME, and whether a
stream-level one is due. -/
def countData (streamID : UInt16) : (Option Bytes × Bool) × ExitCircuit :=
  let flow := c.flowOf
  let due := c.circInCount + 1 ≥ flow.increment
  let counted := { c with circInCount := if due then 0 else c.circInCount + 1 }
  let digest := if due then some c.lastFwdDigest else none
  match c.streams streamID with
  | none => ((digest, false), counted)
  | some es =>
    let (es, sendStream) := ExitStream.delivered es (flow.vegas.isSome || c.usesCGO)
    ((digest, sendStream), counted.setStream streamID (some es))

/-- `HandleSendme`; what Vegas makes of the congestion window is left open. -/
def handleSendme (streamID : UInt16) (payload : Bytes) (cwnd : ℕ) : Except String ExitCircuit := do
  let flow := c.flowOf
  if streamID ≠ 0 then
    match flow.vegas, c.streams streamID with
    | none, some es =>
      if es.packageWindow ≥ exitStreamWindowInit then return c
      else return c.setStream streamID (some { es with
        packageWindow := min (es.packageWindow + exitStreamSendmeInc) exitStreamWindowInit })
    | _, _ => return c
  else
    let (version, digest) ← Circuit.Circ.decodeSendme payload
    if version < 1 then .error "SENDME v0 rejected"
    match c.circExpectedSendme with
    | [] => .error "unexpected circuit SENDME"
    | pending :: rest =>
      if pending ≠ digest then .error "SENDME digest mismatch"
      let c := { c with circExpectedSendme := rest }
      match flow.vegas with
      | some v =>
        let v : VegasWindow := ⟨v.inflight - flow.sendmeInc, cwnd⟩
        return { c with
          circCC := some { flow with vegas := some v }, circOutWindow := some v.packageWindow }
      | none =>
        let cur := c.circOutWindow.getD 0
        if cur ≥ exitCircWindowInit then return c
        else return { c with circOutWindow := some (min (cur + flow.increment) exitCircWindowInit) }

lemma handleSendme_cases {c c' : ExitCircuit} {streamID : UInt16} {payload : Bytes} {cwnd : ℕ}
    (h : c.handleSendme streamID payload cwnd = .ok c') :
    (streamID ≠ 0 ∧ ∃ streams, c' = { c with streams }) ∨
    (streamID = 0 ∧ ∃ digest rest, c.circExpectedSendme = digest :: rest ∧ ((∃ v, c.flowOf.vegas = some v ∧
          c' = { c with
            circExpectedSendme := rest
            circCC := some { c.flowOf with
              vegas := some ⟨v.inflight - c.flowOf.sendmeInc, cwnd⟩ }
            circOutWindow := some
              (VegasWindow.packageWindow ⟨v.inflight - c.flowOf.sendmeInc, cwnd⟩) }) ∨
        (c.flowOf.vegas = none ∧
          c' = { c with
            circExpectedSendme := rest
            circOutWindow :=
              if c.circOutWindow.getD 0 ≥ exitCircWindowInit then c.circOutWindow
              else some (min (c.circOutWindow.getD 0 + c.flowOf.increment) exitCircWindowInit) }))) := by
  unfold handleSendme at h
  dsimp only at h
  split at h
  next hstream =>
    -- A stream SENDME only touches the stream table.
    refine .inl ⟨hstream, ?_⟩
    split at h
    · split at h
      · cases h
        exact ⟨_, rfl⟩
      · cases h
        exact ⟨_, rfl⟩
    · cases h
      exact ⟨_, rfl⟩
  next hstream =>
  obtain ⟨⟨version, digest⟩, -, h⟩ := bind_eq_ok.1 h
  -- Version 0, no digest due, another digest: each is refused.
  refine .inr ⟨not_not.1 hstream, ?_⟩
  split at h
  · cases h
  split at h
  · cases h
  next pending rest hqueue =>
  split at h
  · cases h
  refine ⟨pending, rest, hqueue, ?_⟩
  cases hv : c.flowOf.vegas with
  | some v =>
    simp only [hv] at h
    cases h
    exact .inl ⟨v, rfl, rfl⟩
  | none =>
    simp only [hv] at h
    refine .inr ⟨rfl, ?_⟩
    split at h
    next hfull =>
      cases h
      rw [if_pos hfull]
    next hroom =>
      cases h
      rw [if_neg hroom]

def outWindow : ℤ :=
  match c.flowOf.vegas with
  | some v => v.packageWindow
  | none => c.circOutWindow.getD 0

variable (streamID : UInt16)

/-- One round of `waitOutWindow`: whether a cell may be sent, if the stream is still there. -/
def mayPump : Option Bool :=
  (c.streams streamID).map fun es =>
    if c.flowOf.vegas.isSome then c.outWindow > 0 else c.outWindow > 0 && es.packageWindow > 0

def afterOutboundDATA (tag : Bytes) : ExitCircuit :=
  let flow := c.flowOf
  let tagOK := tag.length = 20 ∨ tag.length = 16
  match flow.vegas with
  | some v =>
    let v := { v with inflight := v.inflight + 1 }
    { c with
      circCC := some { flow with vegas := some v }
      circOutWindow := some v.packageWindow
      circExpectedSendme :=
        if tagOK ∧ flow.sendmeInc ≥ 1 ∧ v.inflight % flow.sendmeInc = 0
        then c.circExpectedSendme ++ [tag] else c.circExpectedSendme }
  | none =>
    let cur := c.circOutWindow.getD 0
    let window := if cur > 0 then cur - 1 else cur
    let sent := exitCircWindowInit - window
    { c with
      circOutWindow := if cur > 0 then some window else c.circOutWindow
      streams := Function.update c.streams streamID ((c.streams streamID).map fun es =>
        if es.packageWindow > 0 then { es with packageWindow := es.packageWindow - 1 } else es)
      circExpectedSendme :=
        if sent > 0 ∧ sent % flow.increment = 0 ∧ tagOK
        then c.circExpectedSendme ++ [tag] else c.circExpectedSendme }

/-- Take a stream out of the table and count it down. -/
def deleteStream : ExitCircuit :=
  { c.setStream streamID none with
    circStreams := if c.circStreams > 0 then c.circStreams - 1 else c.circStreams }

def removeStream : ExitCircuit :=
  if (c.streams streamID).isSome then c.deleteStream streamID else c

/-- The first section of `HandleEnd`, and whether the second one follows. -/
def endFirst : Bool × ExitCircuit :=
  match c.streams streamID with
  | none => (false, c)
  | some es =>
    if es.halfClosed then (false, c.deleteStream streamID)
    else (!es.tcp, c.setStream streamID (some { es with halfClosed := true }))

/-- `HandleBegin` on a stream ID in use. -/
def dropOld : ExitCircuit :=
  if (c.streams streamID).isSome
  then { c.setStream streamID none with circStreams := c.circStreams - 1 } else c

/-- A new stream gets its entry, and the circuit its window. -/
def insertStream (tcp : Bool) : ExitCircuit :=
  let c := c.setStream streamID (some { tcp })
  if c.ccEnabled then c.ensureCC
  else { c with circOutWindow := some (c.circOutWindow.getD exitCircWindowInit) }

def closeCircuit : ExitCircuit :=
  { c with
    circCC := none, streams := fun _ => none, circOutWindow := none, circInCount := 0,
    circStreams := 0, lastFwdDigest := [], circExpectedSendme := [] }

/-- What `originateRelayTag` makes of the cell before it encrypts it. -/
def encodeRelay (rc : RelayCell) : Except String Bytes :=
  if c.usesCGO then (encodeRelayCellV1 rc).map Prod.snd else rc.encode.map Prod.snd

end ExitCircuit

/-! ### Critical sections -/

/-- What is asked of the world outside the circuit. -/
inductive Outside
  /-- Policy, address and flags of a BEGIN cell, or whether there is a directory cache. -/
  | beginAllowed
  /-- The slot of the connection, the name, the policy of its addresses, and the dial. -/
  | dial
  | bwWait
  | writeRemote (data : Bytes)
  | readRemote
  /-- `select` on the context of the pump. -/
  | ctxDone
  deriving DecidableEq

/-- The answers, and what else is left open in a section. -/
inductive ExitChoice
  | done
  | fail (e : String)
  /-- An END reason. -/
  | refuse (reason : UInt8)
  /-- A tag, or the payload of a CONNECTED cell. -/
  | bytes (b : Bytes)
  | read (data : Bytes) (err : Option UInt8)
  | cwnd (n : ℕ)
  deriving DecidableEq

def ExitChoice.failed : ExitChoice → Bool
  | .fail _ => true
  | _ => false

inductive ExitAct
  | outside (o : Outside)
  /-- `GetCircuit` finds no circuit any more. -/
  | circuitGone
  /-- `data` marks a RELAY_DATA cell. -/
  | noteFwdDigest (data : Bool) (digest : Bytes)
  | takeData (streamID : UInt16)
  | countData (streamID : UInt16)
  | handleSendme (streamID : UInt16) (payload : Bytes)
  | closeCircuit
  | endFirst (streamID : UInt16)
  | deleteStream (streamID : UInt16)
  | dropOld (streamID : UInt16)
  | streamLimit
  /-- `HandleBeginDir` takes its slot before it dials. -/
  | takeSlot
  | releaseSlot
  | insertStream (streamID : UInt16) (tcp counted : Bool)
  /-- `go m.pumpRemoteToClient`. -/
  | spawn (pump : ℕ) (streamID : UInt16)
  | start (pump : ℕ)
  | mayPump (streamID : UInt16)
  /-- `originateRelayTag` under the circuit's mutex. -/
  | originate (rc : RelayCell)
  | writeCell (rc : RelayCell)
  | afterOutboundDATA (streamID : UInt16) (tag : Bytes)
  | removeStream (streamID : UInt16)
  deriving DecidableEq

@[reducible] def ExitAct.Resp : ExitAct → Type
  | .outside _ => ExitChoice
  | .circuitGone => Bool
  | .takeData _ => DataTarget
  | .countData _ => Option Bytes × Bool
  | .handleSendme _ _ => Except String Unit
  | .endFirst _ => Bool
  | .streamLimit => Bool
  | .takeSlot => Bool
  | .start _ => UInt16
  | .mayPump _ => Option Bool
  | .originate _ => Except String Bytes
  | .writeCell _ => Except String Unit
  | _ => Unit

abbrev ExitProg := Prog ExitAct ExitAct.Resp

open ExitAct

def sendRelay (streamID : UInt16) (cmd : UInt8) (data : Bytes) : ExitProg (Except String Unit) := do
  match newRelayCell streamID cmd data with
  | .error e => return .error e
  | .ok rc =>
    match ← Prog.lift (originate rc) with
    | .error e => return .error e
    | .ok tag =>
      match ← Prog.lift (writeCell rc) with
      | .error e => return .error e
      | .ok _ =>
        if cmd = relayData then Prog.lift (afterOutboundDATA streamID tag)
        return .ok ()

def sendEnd (streamID : UInt16) (reason : UInt8) : ExitProg (Except String Unit) :=
  sendRelay streamID relayEnd [reason]

/-- The circuit-level SENDME of `HandleData`. -/
def sendCircSendme (circDigest : Bytes) : ExitProg Unit :=
  match encodeSendmeV1 circDigest with
  | .error _ => return
  | .ok payload => do
    let _ ← sendRelay 0 relaySendme payload

/-- The SENDMEs at the end of `HandleData`. -/
def sendDue (streamID : UInt16) (circDigest : Option Bytes) (sendStream : Bool) : ExitProg (Except String Unit) := do
  circDigest.elim (pure ()) sendCircSendme
  if sendStream then
    let _ ← sendRelay streamID relaySendme []
  return .ok ()

def handleData (circID : UInt32) (streamID : UInt16) (data : Bytes) : ExitProg (Except String Unit) := do
  match ← Prog.lift (takeData streamID) with
  | .unknown => return .error s!"unknown exit stream {circID}/{streamID}"
  | .exhausted => sendEnd streamID endReasonMisc
  | .opened =>
    match ← Prog.lift (outside .bwWait) with
    | .fail e => return .error e
    | _ =>
      match ← Prog.lift (outside (.writeRemote data)) with
      | .fail _ => sendEnd streamID endReasonConnReset
      | _ =>
        let (circDigest, sendStream) ← Prog.lift (countData streamID)
        sendDue streamID circDigest sendStream

def handleEnd (streamID : UInt16) : ExitProg Unit := do
  if ← Prog.lift (endFirst streamID) then Prog.lift (deleteStream streamID)

/-- `HandleBegin`; the pump gets the number `pump`. -/
def handleBegin (pump : ℕ) (streamID : UInt16) : ExitProg (Except String Unit) := do
  match ← Prog.lift (outside .beginAllowed) with
  | .refuse reason => sendEnd streamID reason
  | _ =>
    Prog.lift (dropOld streamID)
    if ← Prog.lift streamLimit then sendEnd streamID endReasonResourceLimit
    else
      match ← Prog.lift (outside .dial) with
      | .bytes connected =>
        match ← sendRelay streamID relayConnected connected with
        | .error e => return .error e
        | .ok _ =>
          Prog.lift (insertStream streamID true true)
          Prog.lift (spawn pump streamID)
          return .ok ()
      | .refuse reason => sendEnd streamID reason
      | _ => return .error "dial"

def handleBeginDir (pump : ℕ) (streamID : UInt16) : ExitProg (Except String Unit) := do
  match ← Prog.lift (outside .beginAllowed) with
  | .refuse reason => sendEnd streamID reason
  | _ =>
    if ← Prog.lift takeSlot then sendEnd streamID endReasonResourceLimit
    else
      match ← Prog.lift (outside .dial) with
      | .refuse reason =>
        Prog.lift releaseSlot
        sendEnd streamID reason
      | _ =>
        Prog.lift (insertStream streamID false false)
        match ← sendRelay streamID relayConnected [] with
        | .error e =>
          Prog.lift (removeStream streamID)
          return .error e
        | .ok _ =>
          Prog.lift (spawn pump streamID)
          return .ok ()

/-- `waitOutWindow`; after `tries` rounds its context is done. -/
def waitOutWindow (streamID : UInt16) : ℕ → ExitProg Bool
  | 0 => return false
  | tries + 1 => do
    match ← Prog.lift (mayPump streamID) with
    | none => return false
    | some true => return true
    | some false =>
      match ← Prog.lift (outside .ctxDone) with
      | .fail _ => return false
      | _ => waitOutWindow streamID tries

/-- What `pumpRemoteToClient` does with the bytes it has read; whether it goes on. -/
def pumpData (streamID : UInt16) (data : Bytes) : ExitProg Bool := do
  if data.isEmpty then return true
  match ← Prog.lift (outside .bwWait) with
  | .fail _ => return false
  | _ =>
    match ← sendRelay streamID relayData data with
    | .error _ => return false
    | .ok _ => return true

/-- `pumpRemoteToClient`; after `rounds` rounds its context is done. -/
def pumpRemoteToClient (streamID : UInt16) : ℕ → ExitProg Unit
  | 0 => Prog.lift (removeStream streamID)
  | rounds + 1 => do
    match ← Prog.lift (outside .ctxDone) with
    | .fail _ => Prog.lift (removeStream streamID)
    | _ =>
      if ← waitOutWindow streamID rounds then
        match ← Prog.lift (outside .readRemote) with
        | .read data err =>
          if !(← pumpData streamID data) then Prog.lift (removeStream streamID)
          else
            match err with
            | some reason =>
              let _ ← sendEnd streamID reason
              Prog.lift (removeStream streamID)
            | none => pumpRemoteToClient streamID rounds
        | _ => Prog.lift (removeStream streamID)
      else Prog.lift (removeStream streamID)

/-! ### The connection and its cells -/

/-- A relay cell that the exit recognised, with the digest or CGO tag it was recognised by; `pump`
numbers the pump of a BEGIN cell. -/
structure ExitCell where
  digest : Bytes
  rc : RelayCell
  pump : ℕ := 0
  digest_len : digest.length = 20 ∨ digest.length = 16

/-- `handleLocalRelayCell` after the decryption, on a circuit that ends here. -/
def handleRecognised (circID : UInt32) (cell : ExitCell) : ExitProg (Except String Unit) := do
  let rc := cell.rc
  Prog.lift (noteFwdDigest (rc.command = relayData) cell.digest)
  if rc.command = relayBegin then handleBegin cell.pump rc.streamID
  else if rc.command = relayBeginDir then handleBeginDir cell.pump rc.streamID
  else if rc.command = relayData then handleData circID rc.streamID rc.data
  else if rc.command = relaySendme then
    match ← Prog.lift (handleSendme rc.streamID rc.data) with
    | .error e =>
      Prog.lift closeCircuit
      return .error e
    | .ok _ => return .ok ()
  else if rc.command = relayEnd then
    handleEnd rc.streamID
    return .ok ()
  else return .ok ()

def exitReader (circID : UInt32) : List ExitCell → ExitProg Unit
  | [] => return
  | cell :: cells => do
    if ← Prog.lift circuitGone then return
    else
      let _ ← handleRecognised circID cell
      exitReader circID cells

/-! ### The system -/

inductive ExitTid
  | reader
  | pump (n : ℕ)
  deriving DecidableEq

/-- The exit's tables, the client's connection, and what the goroutines have done. -/
structure ExitState where
  circ : ExitCircuit
  gone : Bool := false
  connOpen : Bool := true
  spawned : ℕ → Option UInt16 := fun _ => none
  /-- The digests of the RELAY_DATA cells recognised, in order. -/
  recognised : List Bytes := []
  /-- The payloads of the circuit-level SENDMEs written. -/
  sendmes : List Bytes := []
  /-- The tags of the DATA cells encrypted, in order, without those whose write failed. -/
  encrypted : List Bytes := []
  /-- The pumps whose DATA cell is encrypted and not accounted for, with the number of the cell. -/
  unaccounted : List (ExitTid × ℕ) := []
  /-- The pumps past the window check whose cell is not accounted for. -/
  admitted : List ExitTid := []
  /-- The circuit window at the last check that a pump passed. -/
  granted : ℤ := 0
  acked : ℕ := 0

namespace ExitState

variable (s : ExitState) (t : ExitTid)

/-- The whole circuit window, used or not. -/
def window : ℤ :=
  match s.circ.flowOf.vegas with
  | some v => v.cwnd
  | none => exitCircWindowInit

def mayPump (streamID : UInt16) : Option Bool × ExitState :=
  match s.circ.mayPump streamID with
  | some true => (some true, { s with
      admitted := t :: s.admitted.erase t, granted := s.window })
  | r => (r, s)

def originate (rc : RelayCell) (tag : Bytes) : ExitState :=
  if rc.command = relayData then
    { s with
      encrypted := s.encrypted ++ [tag]
      unaccounted := (t, s.encrypted.length) :: s.unaccounted }
  else s

def accounted : ExitState :=
  { s with unaccounted := s.unaccounted.filter (·.1 ≠ t), admitted := s.admitted.erase t }

def writeFailed (rc : RelayCell) : ExitState :=
  let s := { s with connOpen := false }
  if rc.command = relayData then
    match s.unaccounted.find? (·.1 = t) with
    | some (_, i) => { s.accounted t with encrypted := s.encrypted.eraseIdx i }
    | none => s
  else s

def written (rc : RelayCell) : ExitState :=
  if rc.command = relaySendme ∧ rc.streamID = 0 then { s with sendmes := s.sendmes ++ [rc.data] }
  else s

def handleSendme (streamID : UInt16) (payload : Bytes) (cwnd : ℕ) : Except String Unit × ExitState :=
  match s.circ.handleSendme streamID payload cwnd with
  | .error e => (.error e, s)
  | .ok circ => (.ok (), { s with circ, acked := if streamID = 0 then s.acked + 1 else s.acked })

def exec : (a : ExitAct) → ExitChoice → ExitState → Option (a.Resp × ExitState)
  | .outside _, ch, s => some (ch, s)
  | .circuitGone, _, s => some (s.gone, s)
  | .noteFwdDigest data digest, _, s =>
    some ((), { s with
      circ := s.circ.noteFwdDigest digest
      recognised := if data then s.recognised ++ [digest] else s.recognised })
  | .takeData i, _, s => some ((s.circ.takeData i).1, { s with circ := (s.circ.takeData i).2 })
  | .countData i, _, s => some ((s.circ.countData i).1, { s with circ := (s.circ.countData i).2 })
  | .handleSendme i payload, .cwnd n, s => some (s.handleSendme i payload n)
  | .handleSendme _ _, _, _ => none
  | .closeCircuit, _, s => some ((), { s with circ := s.circ.closeCircuit, gone := true })
  | .endFirst i, _, s => some ((s.circ.endFirst i).1, { s with circ := (s.circ.endFirst i).2 })
  | .deleteStream i, _, s => some ((), { s with circ := s.circ.deleteStream i })
  | .dropOld i, _, s => some ((), { s with circ := s.circ.dropOld i })
  | .streamLimit, _, s => some (s.circ.circStreams ≥ exitMaxStreamsPerCirc, s)
  | .takeSlot, _, s =>
    if s.circ.circStreams ≥ exitMaxStreamsPerCirc then some (true, s)
    else some (false, { s with circ := { s.circ with circStreams := s.circ.circStreams + 1 } })
  | .releaseSlot, _, s => some ((), { s with circ := { s.circ with circStreams :=
      if s.circ.circStreams > 0 then s.circ.circStreams - 1 else s.circ.circStreams } })
  | .insertStream i tcp counted, _, s =>
    let circ := s.circ.insertStream i tcp
    some ((), { s with circ := { circ with
      circStreams := if counted then circ.circStreams + 1 else circ.circStreams } })
  | .spawn n i, _, s => some ((), { s with spawned := Function.update s.spawned n (some i) })
  | .start n, _, s => (s.spawned n).map fun i => (i, s)
  | .mayPump i, _, s => some (s.mayPump t i)
  | .originate rc, ch, s =>
    match s.circ.encodeRelay rc, ch with
    | .error e, _ => some (.error e, s)
    | .ok _, .bytes tag =>
      if tag.length = 20 ∨ tag.length = 16 then some (.ok tag, s.originate t rc tag) else none
    | .ok _, _ => none
  | .writeCell rc, .fail e, s => some (.error e, s.writeFailed t rc)
  | .writeCell rc, _, s => if s.connOpen then some (.ok (), s.written rc) else none
  | .afterOutboundDATA i tag, _, s =>
    some ((), { s.accounted t with circ := s.circ.afterOutboundDATA i tag })
  | .removeStream i, _, s =>
    some ((), { s with circ := s.circ.removeStream i, admitted := s.admitted.erase t })

end ExitState

/-- The goroutines of a circuit on which the client's cells arrive; a pump starts when it has been
spawned. -/
def exitProg (circID : UInt32) (cells : List ExitCell) (rounds : ℕ → ℕ) : ExitTid → ExitProg Unit
  | .reader => exitReader circID cells
  | .pump n => do
    let streamID ← Prog.lift (start n)
    pumpRemoteToClient streamID (rounds n)

structure FreshExit (circ : ExitCircuit) : Prop where
  streams : ∀ i, circ.streams i = none
  outWindow : circ.ccEnabled = false → circ.circOutWindow = none
  flow : circ.ccEnabled = true → ∃ inc, 0 < inc ∧ circ.circCC = some ⟨inc, some ⟨0, circ.cwndInit⟩⟩
  classic : circ.ccEnabled = false → circ.circCC = none
  inCount : circ.circInCount = 0
  expected : circ.circExpectedSendme = []

def exitConfig (circ : ExitCircuit) (cells : List ExitCell) (rounds : ℕ → ℕ) :
    Config ExitTid ExitAct ExitAct.Resp ExitState :=
  ⟨{ circ }, exitProg circ.circuitID cells rounds⟩

end GoTor.Relay

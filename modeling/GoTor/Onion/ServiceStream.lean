import GoTor.Cell.Relay
import GoTor.Lib.Text
import GoTor.Lib.Thread

/-!
# The streams of a hosted onion service

Every rendezvous circuit of a service has a goroutine that takes its relay cells one after
the other and hands them to the stream manager.  The manager keeps one table of streams for
the whole service, with the stream ID alone as the key.  A stream forwards what its backend
sends in a goroutine of its own.  Each action below is one critical section, one channel
operation or one call on a connection.
-/

namespace GoTor.Onion

open GoTor.Lib GoTor.Cell

/-! ### RELAY_BEGIN -/

def endReasonConnRefused : UInt8 := 3
def endReasonExitPolicy : UInt8 := 4
def endReasonProtocol : UInt8 := 13

/-- A decimal port number of at most 65535. -/
def parsePortFrom : (port : ℕ) → Bytes → Option ℕ
  | port, [] => some port
  | port, c :: cs =>
    if c < 48 ∨ c > 57 then none
    else
      let port := port * 10 + (c.toNat - 48)
      if port > 65535 then none else parsePortFrom port cs

def parsePort (s : Bytes) : Option ℕ :=
  if s.length = 0 then none else parsePortFrom 0 s

/-- The host and the port; an address that does not split is a host without a port. -/
def parseAddrPort (addrPort : Bytes) : Option (Bytes × ℕ) :=
  match splitHostPort addrPort with
  | .error _ => some (addrPort, 0)
  | .ok (host, portStr) =>
    if portStr = [] then some (host, 0) else (parsePort portStr).map (host, ·)

/-- The offset of the first zero byte, or 0 when there is none. -/
def addrPortEnd (data : Bytes) : ℕ := (data.idxOf? 0).getD 0

/-- The port a RELAY_BEGIN asks for and the backend it is mapped to, or the reason of the
RELAY_END that refuses it. -/
def beginTarget (ports : ℕ → Option String) (data : Bytes) : Except UInt8 (ℕ × String) :=
  if addrPortEnd data = 0 then .error endReasonProtocol
  else
    match parseAddrPort (data.take (addrPortEnd data)) with
    | none => .error endReasonProtocol
    | some (_, targetPort) =>
      match ports targetPort with
      | none => .error endReasonExitPolicy
      | some targetAddr => .ok (targetPort, targetAddr)

/-! ### Actions -/

/-- What a read from the backend gives. -/
inductive BackendRead
  | data (b : Bytes)
  | timeout
  | failed
  deriving DecidableEq

/-- A stream is referred to by its number in the order of creation. -/
inductive StreamAct (ι : Type)
  /-- `connectToBackend`. -/
  | dial (targetAddr : String)
  /-- Create the stream and enter it into the table. -/
  | register (circuit : ι) (streamID : UInt16) (targetPort : ℕ) (targetAddr : String)
  | lookup (circuit : ι) (streamID : UInt16)
  /-- `stream.conn.Write`, for a cell of `circuit` with the stream ID `streamID`. -/
  | write (circuit : ι) (streamID : UInt16) (stream : ℕ) (data : Bytes)
  /-- `stream.Close`, by the goroutine of a circuit if there is one. -/
  | close (circuit : Option ι) (stream : ℕ)
  | delete (circuit : ι) (streamID : UInt16)
  | send (circuit : ι) (rc : RelayCell)
  /-- Start the stream's two goroutines: its RELAY_BEGIN has succeeded. -/
  | start (circuit : ι) (streamID : UInt16) (stream : ℕ)
  | awaitStart (stream : ℕ)
  /-- Whether the stream's context is done. -/
  | ctxDone (stream : ℕ)
  /-- Wait until the stream's context is done. -/
  | awaitDone (stream : ℕ)
  | read (stream : ℕ)
  /-- `s.circuit.SendRelayCell` with a RELAY_DATA of the stream. -/
  | sendData (stream : ℕ) (data : Bytes)
  /-- The critical section of `CloseAll`: the streams that were in the table. -/
  | takeAll
  /-- Cancel the service's context. -/
  | cancel

@[reducible] def StreamAct.Resp {ι : Type} : StreamAct ι → Type
  | .dial _ => Bool
  | .register _ _ _ _ => ℕ
  | .lookup _ _ => Option ℕ
  | .write _ _ _ _ => Bool
  | .send _ _ => Bool
  | .ctxDone _ => Bool
  | .read _ => BackendRead
  | .sendData _ _ => Bool
  | .takeAll => List ℕ
  | _ => Unit

abbrev StreamProg (ι : Type) := Prog (StreamAct ι) StreamAct.Resp

open StreamAct

/-! ### The stream manager -/

section Manager

variable {ι : Type} (ports : ℕ → Option String) (c : ι)

/-- A cell the manager makes itself; its data is short enough to fit. -/
def controlCell (command : UInt8) (streamID : UInt16) (data : Bytes) : RelayCell :=
  { command, streamID, length := UInt16.ofNat data.length, data }

variable (streamID : UInt16)

def sendRelayConnected : StreamProg ι Bool :=
  Prog.lift (send c (controlCell relayConnected streamID (zeros 8)))

def sendRelayEnd (reason : UInt8) : StreamProg ι Bool :=
  Prog.lift (send c (controlCell relayEnd streamID [reason]))

/-- `HandleRelayBegin`; returns whether the error is nil, which it also is when the refusing
RELAY_END was sent. -/
def handleRelayBegin (data : Bytes) : StreamProg ι Bool :=
  match beginTarget ports data with
  | .error reason => sendRelayEnd c streamID reason
  | .ok (targetPort, targetAddr) => do
    let connected ← Prog.lift (dial targetAddr)
    if !connected then sendRelayEnd c streamID endReasonConnRefused
    else
      let stream ← Prog.lift (register c streamID targetPort targetAddr)
      let sent ← sendRelayConnected c streamID
      if sent then
        Prog.lift (start c streamID stream)
        return true
      else
        -- the entry of the closed stream stays in the table
        Prog.lift (close (some c) stream)
        return false

def handleRelayData (data : Bytes) : StreamProg ι Bool := do
  match ← Prog.lift (lookup c streamID) with
  | none => return false
  | some stream =>
    let written ← Prog.lift (write c streamID stream data)
    if written then return true
    else
      Prog.lift (close (some c) stream)
      return false

def handleRelayEnd : StreamProg ι Unit := do
  match ← Prog.lift (lookup c streamID) with
  | none => return ()
  | some stream =>
    Prog.lift (close (some c) stream)
    Prog.lift (delete c streamID)

/-- The `switch` of `handleRendezvousCircuitCells`. -/
def handleCell (rc : RelayCell) : StreamProg ι Unit :=
  if rc.command = relayBegin then do
    let _ ← handleRelayBegin ports c rc.streamID rc.data
  else if rc.command = relayData then do
    let _ ← handleRelayData c rc.streamID rc.data
  else if rc.command = relayEnd then handleRelayEnd c rc.streamID
  -- a SENDME or an unexpected command is only logged
  else pure ()

/-- `handleRendezvousCircuitCells`, for the cells the circuit receives. -/
def handleRendezvousCircuitCells (cells : List RelayCell) : StreamProg ι Unit :=
  Prog.forEach cells (handleCell ports c)

end Manager

/-- At most `rounds` turns of the loop of `forwardToCircuit`, with the deferred `Close`. -/
def forwardLoop {ι : Type} (stream : ℕ) : (rounds : ℕ) → StreamProg ι Unit
  | 0 => pure ()
  | rounds + 1 => do
    if ← Prog.lift (ctxDone stream) then Prog.lift (close none stream)
    else
      match ← Prog.lift (read stream) with
      | .timeout => forwardLoop stream rounds
      | .failed => Prog.lift (close none stream)
      | .data b =>
        if b.length = 0 then forwardLoop stream rounds
        else if ← Prog.lift (sendData stream b) then forwardLoop stream rounds
        else Prog.lift (close none stream)

def forwardToCircuit {ι : Type} (stream rounds : ℕ) : StreamProg ι Unit := do
  Prog.lift (awaitStart stream)
  forwardLoop stream rounds

def forwardFromCircuit {ι : Type} (stream : ℕ) : StreamProg ι Unit := do
  Prog.lift (awaitStart stream)
  Prog.lift (awaitDone stream)
  Prog.lift (close none stream)

def closeAll {ι : Type} : StreamProg ι Unit := do
  let streams ← Prog.lift takeAll
  Prog.forEach streams fun stream => Prog.lift (close none stream)

/-- `Service.Stop`, as far as streams are concerned. -/
def stop {ι : Type} : StreamProg ι Unit := do
  closeAll
  Prog.lift cancel

end GoTor.Onion

import GoTor.Cell.Replay
import GoTor.Circuit.Conflux
import GoTor.Circuit.Send

/-!
# Delivering relay cells

`DeliverRelayCell`, which the read loop of the OR connection calls for every RELAY cell of a
circuit, with what it leads to: replay protection, flow control, the Conflux set, and the
receive channel that `ReceiveRelayCell`, `ReadFromStream` and `OpenStream` read.  `Close` runs
beside it in other goroutines.  Everything is cut into the critical sections of the source.

A pair of circuits is modelled, because a Conflux set delivers the cells of both to one; a
circuit outside a set is the primary one with `conflux` unset.
-/

namespace GoTor.Circuit

open GoTor.Lib GoTor.Cell GoTor.Relay

/-- What a delivery reads and writes of a `Circuit`, besides the receive channel. -/
structure Circ extends Sender where
  deliverWindow : ℤ := 1000
  sendmeReceived : ℕ := 0
  /-- The negotiated SENDME increment, or 0. -/
  sendmeInc : ℕ := 0
  /-- `ccParams.CwndInit`, or 0 when the parameters are not set. -/
  cwndInit : ℕ := 0
  replay : Option ReplayProtection := some {}
  /-- `c.conflux` is set. -/
  conflux : Bool := false
  deriving DecidableEq

namespace Circ

variable (c : Circ)

def sendmeIncrement : ℕ := if c.sendmeInc > 0 then c.sendmeInc else 100

def decrementDeliverWindowAndTakeSendme : Except String (Circ × Bool) :=
  if c.deliverWindow ≤ 0 then
    .error "deliver window exhausted: cannot receive more cells until SENDME sent"
  else
    let c := { c with
      deliverWindow := c.deliverWindow - 1, sendmeReceived := c.sendmeReceived + 1 }
    if c.sendmeReceived ≥ c.sendmeIncrement then
      .ok ({ c with sendmeReceived := c.sendmeReceived - c.sendmeIncrement }, true)
    else .ok (c, false)

variable (streamID : UInt16)

def withStream (f : StreamRec → StreamRec) : Circ :=
  { c with toSender := c.toSender.updateStream streamID f }

def decrementStreamDeliverWindow : Except String Circ :=
  match c.getStream streamID with
  | none => .ok c
  | some s =>
    if s.deliverWindow ≤ 0 then
      .error "stream deliver window exhausted: cannot receive more cells until SENDME sent"
    else .ok (c.withStream streamID fun s =>
      { s with deliverWindow := s.deliverWindow - 1, sendmeReceived := s.sendmeReceived + 1 })

def shouldSendStreamSendme : Bool :=
  (c.getStream streamID).any (·.sendmeReceived ≥ 50)

def incrementStreamPackageWindow : Circ :=
  c.withStream streamID fun s => { s with packageWindow := s.packageWindow + 50 }

/-- What `sendCircuitSendme` does to the window. -/
def circuitSendmeSent : Circ := { c with deliverWindow := c.deliverWindow + c.sendmeIncrement }

/-- What `sendStreamSendme` does to the window of the stream. -/
def streamSendmeSent (streamID : UInt16) : Circ :=
  c.withStream streamID fun s =>
    { s with sendmeReceived := 0, deliverWindow := s.deliverWindow + 50 }

/-- `DecodeSendme`: the version and the tag. -/
def decodeSendme (payload : Bytes) : Except String (UInt8 × Bytes) :=
  if payload.length = 0 then .ok (0, [])
  else if payload.length < 3 then .error s!"SENDME payload too short: {payload.length}"
  else
    let version := payload.getD 0 0
    let dataLen := (uint16At payload 1).toNat
    if 3 + dataLen > payload.length then
      .error s!"SENDME DATA_LEN {dataLen} exceeds payload {payload.length}"
    else if version = 0 then .ok (0, [])
    else if version = 1 then
      if dataLen ≠ 20 ∧ dataLen ≠ 16 then
        .error s!"SENDME v1 DATA_LEN {dataLen}, want 20 or 16"
      else .ok (1, slice payload 3 (3 + dataLen))
    else .error s!"unrecognized SENDME version {version}"

/-- `processCircuitSendme`.  What Vegas makes of the round-trip time is left open. -/
def processCircuitSendme (payload : Bytes) (vegas' : VegasWindow) : Except String Circ := do
  let (version, digest) ← (decodeSendme payload).mapError (s!"invalid SENDME: {·}")
  if version < 1 then .error s!"SENDME version {version} below accept min 1"
  match c.sendmeExpected with
  | [] => .error "unexpected circuit SENDME"
  | expected :: rest =>
    if expected ≠ digest then .error "SENDME digest mismatch"
    let c := { c with sendmeExpected := rest }
    match c.vegas with
    | some _ => return { c with vegas := some vegas', packageWindow := vegas'.packageWindow }
    | none => return { c with packageWindow := c.packageWindow + c.sendmeIncrement }

/-- `deliverToStream`: into the queue of the stream, which holds 32 entries. -/
def deliverToStream (rc : RelayCell) : Except String Circ :=
  match c.streams with
  | none => .error "no stream manager configured"
  | some _ =>
    match c.getStream rc.streamID with
    | none =>
      .error s!"stream {rc.streamID} not found: stream not found: circuit={c.id} stream={rc.streamID}"
    | some s =>
      -- on a closed stream the `select` may also take the queue, which nothing reads any more
      let receiveData (data : Bytes) : Except String Circ :=
        if s.closed then .error "EOF"
        else if s.recvQueue.length ≥ 32 then .error "receive queue full"
        else .ok (c.withStream rc.streamID fun s => { s with recvQueue := s.recvQueue ++ [data] })
      if rc.command = relayData then receiveData rc.data
      else if rc.command = relayEnd then receiveData []
      else .ok c

end Circ

structure RecvChan where
  /-- The field `c.relayReceiveChan` is not nil. -/
  isSet : Bool := true
  closed : Bool := false
  queue : List RelayCell := []
  deriving DecidableEq

def recvChanCap : ℕ := 32

/-! ### Critical sections -/

/-- The sections that touch neither the receive channel nor what `Close` sets. -/
inductive QuietAct
  | validateAndTrack (l : Leg) (payload : Bytes)
  | decrementDeliverWindow (l : Leg)
  | decrementStreamDeliverWindow (l : Leg) (streamID : UInt16)
  | shouldSendStreamSendme (l : Leg) (streamID : UInt16)
  | processCircuitSendme (l : Leg) (payload : Bytes)
  | incrementStreamPackageWindow (l : Leg) (streamID : UInt16)
  | circuitSendmeSent (l : Leg)
  | streamSendmeSent (l : Leg) (streamID : UInt16)
  | length (l : Leg)
  | confluxLinked
  | gotLinked (l : Leg) (nonce : Bytes)
  | sendLinkedAck (l : Leg)
  | ackSent (l : Leg)
  | handleSwitch (l : Leg) (rel : ℕ)
  | reorder (l : Leg) (rc : RelayCell)
  | onLegClosed (l : Leg)
  | teardown
  | deliverToStream (l : Leg) (rc : RelayCell)

@[reducible] def QuietAct.Resp : QuietAct → Type
  | .validateAndTrack _ _ => Except String Unit
  | .decrementDeliverWindow _ => Except String Bool
  | .decrementStreamDeliverWindow _ _ => Except String Unit
  | .shouldSendStreamSendme _ _ => Bool
  | .processCircuitSendme _ _ => Except String Unit
  | .length _ => ℕ
  | .confluxLinked => Bool
  | .gotLinked _ _ => Except String Unit
  | .sendLinkedAck _ => Except String Unit
  | .handleSwitch _ _ => Except String Unit
  | .reorder _ _ => Except String (List RelayCell)
  | .onLegClosed _ => List Leg
  | .teardown => List Leg
  | .deliverToStream _ _ => Except String Unit
  | _ => Unit

/-- What a `select` over `destroyCh`, the receive channel and the context gives. -/
inductive Received
  | destroyed (reason : UInt8)
  | cell (rc : RelayCell)
  | closed
  | ctxDone
  deriving DecidableEq

/-- The ways in which `DeliverRelayCell` returns nil. -/
inductive Outcome
  | unrecognised
  | sendme
  | conflux
  | queued
  deriving DecidableEq

inductive DeliverAct
  | quiet (q : QuietAct)
  | decryptOnion (l : Leg) (cmd : LinkCmd) (payload : Bytes)
  | confluxSet (l : Leg)
  | detachConflux (l : Leg)
  | setState (l : Leg) (state : State)
  /-- `enqueueRelayCell` reads the field `relayReceiveChan`. -/
  | fetchChan (l : Leg)
  /-- The `select` of `enqueueRelayCell` on the channel fetched before. -/
  | offer (l : Leg) (rc : RelayCell)
  /-- The critical section of `Close`: whether the circuit was open, and was in a set. -/
  | closeSection (l : Leg)
  | notifyDestroyed (l : Leg) (reason : UInt8)
  /-- `ReceiveRelayCell` reads the field `relayReceiveChan`. -/
  | peekChan (l : Leg)
  /-- The `select` of `ReceiveRelayCell`, in a call that reads from stream `sid` or waits for
  it to open. -/
  | receive (l : Leg) (sid : UInt16) (opening chanSet : Bool)
  /-- A delivery starts; the answer says whether a `Close` of the circuit has returned. -/
  | deliveryStarts (l : Leg)
  | deliveryEnds (l : Leg) (late : Bool) (r : Except String Outcome)
  | closeReturns (l : Leg)

@[reducible] def DeliverAct.Resp : DeliverAct → Type
  | .quiet q => q.Resp
  | .decryptOnion _ _ _ => Except String Opened
  | .confluxSet _ => Bool
  | .fetchChan _ => Bool
  | .peekChan _ => Bool
  | .offer _ _ => Except String Unit
  | .closeSection _ => Option Bool
  | .receive _ _ _ _ => Received
  | .deliveryStarts _ => Bool
  | _ => Unit

abbrev DeliverProg := Prog DeliverAct DeliverAct.Resp

open DeliverAct

def quiet (q : QuietAct) : DeliverProg q.Resp := Prog.lift (DeliverAct.quiet q)

/-! ### Closing -/

/-- `Close`.  With a Conflux set it closes the other leg too, whose own `Close` finds the
set closed: two levels are all there can be. -/
def closeCircuit : ℕ → Leg → DeliverProg Unit
  | 0, _ => pure ()
  | depth + 1, l => do
    match ← Prog.lift (closeSection l) with
    | none => pure ()
    | some inSet =>
      Prog.lift (notifyDestroyed l 0)
      if inSet then
        let others ← quiet (.onLegClosed l)
        Prog.forEach others fun o => do
          Prog.lift (detachConflux o)
          closeCircuit depth o
    Prog.lift (closeReturns l)

def close (l : Leg) : DeliverProg Unit := closeCircuit 2 l

def failAndClose : DeliverProg Unit := do
  let legs ← quiet .teardown
  Prog.forEach legs fun l => do
    Prog.lift (detachConflux l)
    close l

/-! ### Delivering -/

def enqueueRelayCell (l : Leg) (rc : RelayCell) : DeliverProg (Except String Unit) := do
  if ← Prog.lift (fetchChan l) then Prog.lift (offer l rc)
  else return .error "circuit closed"

/-- The delivery loop of `reorder`, to the owner of the set. -/
def enqueueAll : List RelayCell → DeliverProg (Except String Unit)
  | [] => return .ok ()
  | rc :: rest => do
    match ← enqueueRelayCell .primary rc with
    | .error e => return .error e
    | .ok _ => enqueueAll rest

def requireExitHop (l : Leg) (hopIdx : ℕ) : DeliverProg (Except String Unit) := do
  let n ← quiet (.length l)
  if n = 0 ∨ hopIdx ≠ n - 1 then
    return .error s!"conflux cell from hop {hopIdx}, want exit {(n : ℤ) - 1}"
  else return .ok ()

def handleLinked (l : Leg) (rc : RelayCell) : DeliverProg (Except String Unit) := do
  match decodeConfluxLink rc.data with
  | .error e => return .error s!"LINKED decode: {e}"
  | .ok nonce =>
    match ← quiet (.gotLinked l nonce) with
    | .error e => return .error e
    | .ok _ =>
      match ← quiet (.sendLinkedAck l) with
      | .error e => return .error s!"LINKED_ACK: {e}"
      | .ok _ =>
        quiet (.ackSent l)
        return .ok ()

def handleSwitch (l : Leg) (rc : RelayCell) : DeliverProg (Except String Unit) := do
  match decodeConfluxSwitch rc.data with
  | .error e => return .error e
  | .ok rel =>
    if rel < 1 then return .error "SWITCH relative seq must be >= 1"
    else quiet (.handleSwitch l rel)

def reorder (l : Leg) (rc : RelayCell) : DeliverProg (Except String Unit) := do
  match ← quiet (.reorder l rc) with
  | .error e => return .error e
  | .ok due => enqueueAll due

/-- A handler for cells that only the exit may send. -/
def fromExit (l : Leg) (hopIdx : ℕ) (handler : DeliverProg (Except String Unit)) :
    DeliverProg (Except String Bool) := do
  match ← requireExitHop l hopIdx with
  | .error e => return .error e
  | .ok _ =>
    match ← handler with
    | .error e => return .error e
    | .ok _ => return .ok true

/-- `onRelayCell`: whether the set took the cell. -/
def onRelayCell (id : UInt32) (l : Leg) (rc : RelayCell) (hopIdx : ℕ) : DeliverProg (Except String Bool) := do
  if rc.command = relayConfluxLinked then fromExit l hopIdx (handleLinked l rc)
  else if rc.command = relayConfluxSwitch then fromExit l hopIdx (handleSwitch l rc)
  else if rc.command = relayConfluxLink then
    return .error s!"unexpected RELAY_CONFLUX_LINK on client circuit {id}"
  else if rc.command = relayConfluxLinkedAck then
    return .error s!"unexpected RELAY_CONFLUX_LINKED_ACK on client circuit {id}"
  else if (← quiet .confluxLinked) && confluxShouldMultiplex rc.command then
    fromExit l hopIdx (reorder l rc)
  else return .ok false

/-- The end of `DeliverRelayCell`: through the Conflux set, or into the receive channel. -/
def passToReader (id : UInt32) (l : Leg) (rc : RelayCell) (hopIdx : ℕ) : DeliverProg (Except String Outcome) := do
  let enqueue : DeliverProg (Except String Outcome) := do
    match ← enqueueRelayCell l rc with
    | .error e => return .error e
    | .ok _ => return .ok .queued
  if ← Prog.lift (confluxSet l) then
    match ← onRelayCell id l rc hopIdx with
    | .error e =>
      failAndClose
      Prog.lift (notifyDestroyed l 1)
      return .error s!"conflux: {e}"
    | .ok true => return .ok .conflux
    | .ok false => enqueue
  else enqueue

/-- Flow control for a DATA cell.  The SENDMEs that fall due are sent by goroutines of
their own. -/
def countData (l : Leg) (v1 : Bool) (rc : RelayCell) : DeliverProg (Except String Unit) := do
  match ← quiet (.decrementDeliverWindow l) with
  | .error e => return .error s!"circuit flow control: {e}"
  | .ok _ =>
    if !v1 && rc.streamID > 0 then
      match ← quiet (.decrementStreamDeliverWindow l rc.streamID) with
      | .error e => return .error s!"stream flow control: {e}"
      | .ok _ =>
        let _ ← quiet (.shouldSendStreamSendme l rc.streamID)
        return .ok ()
    else return .ok ()

/-- A SENDME cell: it is never passed to a reader. -/
def takeSendme (l : Leg) (rc : RelayCell) : DeliverProg (Except String Outcome) := do
  if rc.streamID = 0 then
    match ← quiet (.processCircuitSendme l rc.data) with
    | .error e =>
      Prog.lift (setState l .failed)
      Prog.lift (notifyDestroyed l 1)
      return .error s!"circuit SENDME: {e}"
    | .ok _ => return .ok .sendme
  else
    quiet (.incrementStreamPackageWindow l rc.streamID)
    return .ok .sendme

def Opened.decode (o : Opened) : Except String RelayCell :=
  if o.v1 then decodeRelayCellV1 o.out else decodeRelayCell o.out

/-- `DeliverRelayCell` of the circuit with the given ID. -/
def deliverRelayCell (id : UInt32) (l : Leg) (cd : LinkCell) : DeliverProg (Except String Outcome) := do
  if cd.circID ≠ id then
    return .error s!"circuit ID mismatch: expected {id}, got {cd.circID}"
  match ← Prog.lift (DeliverAct.decryptOnion l cd.command cd.payload) with
  | .error e => return .error s!"onion decrypt: {e}"
  | .ok o =>
    match ← quiet (.validateAndTrack l o.out) with
    | .error e => return .error s!"replay protection: {e}"
    | .ok _ =>
      match o.hopIdx with
      -- a cell that no hop recognises is dropped without a word
      | none => return .ok .unrecognised
      | some hopIdx =>
        match o.decode with
        | .error e => return .error s!"failed to decode relay cell: {e}"
        | .ok rc =>
          if rc.command = relayData then
            match ← countData l o.v1 rc with
            | .error e => return .error e
            | .ok _ => passToReader id l rc hopIdx
          else if rc.command = relaySendme then takeSendme l rc
          else passToReader id l rc hopIdx

/-! ### Reading -/

/-- `ReceiveRelayCell`: the field is read, then the `select` waits. -/
def receiveRelayCell (l : Leg) (sid : UInt16) (opening : Bool) : DeliverProg Received := do
  let chanSet ← Prog.lift (peekChan l)
  Prog.lift (receive l sid opening chanSet)

/-- The error of a `ReceiveRelayCell` that gave no cell. -/
def Received.error : Received → String
  | .destroyed reason => s!"circuit destroyed: reason={reason}"
  | .closed => "circuit closed"
  | .ctxDone => "context canceled"
  | .cell _ => ""

/-- `ReadFromStream`, for at most `fuel` cells: the data of the stream, `none` for its end. -/
def readFromStream (l : Leg) (sid : UInt16) : ℕ → DeliverProg (Except String (Option Bytes))
  | 0 => return .error "out of fuel"
  | fuel + 1 => do
    match ← receiveRelayCell l sid false with
    | .cell rc =>
      if rc.streamID ≠ sid then
        -- the error of a cell that no stream takes is ignored
        let _ ← quiet (.deliverToStream l rc)
        readFromStream l sid fuel
      else if rc.command = relayData then return .ok (some rc.data)
      else if rc.command = relayEnd then return .ok none
      else readFromStream l sid fuel
    | r => return .error s!"failed to receive relay cell: {r.error}"

/-- `waitStreamConnected`, for at most `fuel` cells. -/
def waitStreamConnected (l : Leg) (sid : UInt16) : ℕ → DeliverProg (Except String Unit)
  | 0 => return .error "out of fuel"
  | fuel + 1 => do
    match ← receiveRelayCell l sid true with
    | .cell rc =>
      if rc.streamID ≠ sid then
        let _ ← quiet (.deliverToStream l rc)
        waitStreamConnected l sid fuel
      else if rc.command = relayEnd then
        let reason := match rc.data with
          | [] => "unknown"
          | b :: _ => s!"reason={b}"
        return .error s!"stream rejected by exit: {reason}"
      else if rc.command = relayConnected then return .ok ()
      else waitStreamConnected l sid fuel
    | r => return .error s!"failed to receive RELAY_CONNECTED: {r.error}"

end GoTor.Circuit

import GoTor.Cell.Relay
import GoTor.Circuit.Onion
import GoTor.Relay.CircuitCrypto
import GoTor.Lib.Thread

/-!
# Sending relay cells

`emitRelayCell` and `SendRelayCellToHop`, as any number of goroutines run them on one client
circuit.  Each is a sequence of critical sections: what it reads of the circuit, the onion
encryption and the bookkeeping are sections of the circuit's mutex, and writing the cell is a
section of the connection's `sendMu`.  No lock is held from the encryption to the write, and
that is where the order of the cells on the connection can part from the order in which the
ciphers and digests advanced.
-/

namespace GoTor.Circuit

open GoTor.Lib GoTor.Cell GoTor.Relay

inductive State
  | building
  | opened
  | closed
  | failed
  deriving DecidableEq

instance : ToString State where
  toString
    | .building => "BUILDING"
    | .opened => "OPEN"
    | .closed => "CLOSED"
    | .failed => "FAILED"

def Hop.usesCGO (hop : Hop) : Bool := hop.cgo.isSome

/-- The part of `vegasState` that a refund reads. -/
structure VegasWindow where
  inflight : ℕ
  cwnd : ℕ
  deriving DecidableEq

def VegasWindow.packageWindow (v : VegasWindow) : ℤ :=
  if v.inflight ≥ v.cwnd then 0 else v.cwnd - v.inflight

/-- A stream of the stream manager, as far as the circuit uses it. -/
structure StreamRec where
  id : UInt16
  packageWindow : ℤ := 500
  deliverWindow : ℤ := 500
  sendmeReceived : ℕ := 0
  recvQueue : List Bytes := []
  closed : Bool := false
  deriving DecidableEq

/-- What the senders read and write of a `Circuit` under its mutex. -/
structure Sender where
  id : UInt32
  conn : Bool
  state : State
  hops : List Hop
  packageWindow : ℤ := 1000
  vegas : Option VegasWindow := none
  /-- The streams, if a stream manager is set. -/
  streams : Option (List StreamRec) := none
  sendmeExpected : List Bytes := []
  deriving DecidableEq

/-- A cell as it goes to the connection. -/
structure LinkCell where
  circID : UInt32
  command : LinkCmd
  payload : Bytes
  deriving DecidableEq

namespace Sender

def refundPackageWindow (c : Sender) : Sender :=
  match c.vegas with
  | some v =>
    let v := if v.inflight > 0 then { v with inflight := v.inflight - 1 } else v
    { c with vegas := some v, packageWindow := v.packageWindow }
  | none => { c with packageWindow := c.packageWindow + 1 }

def getStream (c : Sender) (streamID : UInt16) : Option StreamRec :=
  c.streams.bind fun ss => ss.find? (·.id = streamID)

def updateStream (c : Sender) (streamID : UInt16) (f : StreamRec → StreamRec) : Sender :=
  { c with streams := c.streams.map fun ss => ss.map fun s => if s.id = streamID then f s else s }

def refundStreamPackageWindow (c : Sender) (streamID : UInt16) : Sender :=
  c.updateStream streamID fun s => { s with packageWindow := s.packageWindow + 1 }

/-- `sendmeAuthTag`: the CGO tag as it is, or the first 20 bytes of a digest. -/
def sendmeAuthTag (raw : Bytes) : Option Bytes :=
  if raw.length = 16 then some raw
  else if raw.length ≥ 20 then some (raw.take 20)
  else none

def recordSendmeTag (c : Sender) (tag : Option Bytes) : Sender :=
  match sendmeAuthTag (tag.getD []) with
  | some auth => { c with sendmeExpected := c.sendmeExpected ++ [auth] }
  | none => c

/-- `AddHop`, and `AddHSHop` for the rendezvous layer of an open circuit. -/
def addHop (c : Sender) (hs : Bool) (hop : Hop) : Except String Sender :=
  if c.state = .building ∨ (hs ∧ c.state = .opened) then .ok { c with hops := c.hops ++ [hop] }
  else if hs then .error s!"cannot add HS hop in state {c.state}"
  else .error s!"cannot add hop to circuit in state {c.state}"

lemma addHop_eq_ok {c c' : Sender} {hs : Bool} {hop : Hop} (h : c.addHop hs hop = .ok c') :
    ∃ hops, c' = { c with hops } := by
  unfold addHop at h
  split at h
  · cases h
    exact ⟨_, rfl⟩
  · split at h
    · cases h
    · cases h

end Sender

/-! ### Critical sections -/

/-- What a sender reads of the circuit in one section. -/
structure Snapshot where
  id : UInt32
  conn : Bool
  state : State
  nHops : ℕ
  /-- Whether the last hop uses CGO. -/
  destCGO : Bool

/-- The critical sections of the senders, and of the goroutines that change what they read. -/
inductive SendAct
  | snapshot
  | hopUsesCGO (i : ℕ)
  /-- `rand.Read` into `n` bytes. -/
  | randRead (n : ℕ)
  | encryptOnion (cmd : LinkCmd) (dest : ℤ) (payload : Bytes)
  /-- `Connection.SendCell`; `onion` records that the payload went through `encryptOnion`. -/
  | sendCell (onion : Bool) (cell : LinkCell)
  | refundPackageWindow
  | refundStreamPackageWindow (streamID : UInt16)
  | recordSendmeTag (tag : Option Bytes)
  | addHop (hs : Bool) (hop : Hop)
  | setState (state : State)
  | setConnection

@[reducible] def SendAct.Resp : SendAct → Type
  | .snapshot => Snapshot
  | .hopUsesCGO _ => Bool
  | .randRead _ => Except String Bytes
  | .encryptOnion _ _ _ => Except String (Bytes × Option Bytes)
  | .sendCell _ _ => Except String Unit
  | .addHop _ _ => Except String Unit
  | _ => Unit

abbrev SendProg := Prog SendAct SendAct.Resp

open SendAct

/-! ### The senders -/

def refundReservedWindows (streamID : UInt16) (destCGO : Bool) : SendProg Unit := do
  Prog.lift refundPackageWindow
  if !destCGO && streamID > 0 then
    Prog.lift (refundStreamPackageWindow streamID)

/-- `payload` with random bytes from `start` on. -/
def randomize (what : String) (start : ℕ) (payload : Bytes) : SendProg (Except String Bytes) := do
  if start < payload.length then
    match ← Prog.lift (randRead (payload.length - start)) with
    | .ok pad => return .ok (overwrite start pad payload)
    | .error e => return .error s!"failed to randomize {what} padding: {e}"
  else return .ok payload

/-- The payload for a hop: in the v1 format with random padding, or in the v0 format, where
only `emitRelayCell` randomizes, and only behind the data of a DATA cell. -/
def encodeFor (destCGO padData : Bool) (rc : RelayCell) : SendProg (Except String Bytes) := do
  if destCGO then
    match encodeRelayCellV1 rc with
    | .error e => return .error s!"failed to encode v1 relay cell: {e}"
    | .ok (_, payload) => randomize "v1" (v1MessageEnd payload + 4) payload
  else
    match rc.encode with
    | .error e => return .error s!"failed to encode relay cell: {e}"
    | .ok (rc, payload) =>
      if padData && rc.command == relayData then
        randomize "DATA" (relayCellHeaderLen + rc.length.toNat) payload
      else return .ok payload

/-- The end of `emitRelayCell`: only a cell that was sent leaves its SENDME tag. -/
def emitCell (refund : SendProg Unit) (recordSendme onion : Bool) (cell : LinkCell)
    (forwardTag : Option Bytes) : SendProg (Except String Unit) := do
  match ← Prog.lift (sendCell onion cell) with
  | .error e =>
    refund
    return .error s!"failed to send cell: {e}"
  | .ok _ =>
    if recordSendme then Prog.lift (recordSendmeTag forwardTag)
    return .ok ()

def emitRelayCell (rc : RelayCell) (recordSendme reserved : Bool) : SendProg (Except String Unit) := do
  let snap ← Prog.lift snapshot
  let dest : ℤ := snap.nHops - 1
  let refund : SendProg Unit :=
    if reserved then refundReservedWindows rc.streamID snap.destCGO else pure ()
  if snap.state ≠ .opened ∧ snap.state ≠ .building then
    refund
    return .error s!"circuit not usable: state={snap.state}"
  if !snap.conn then
    refund
    return .error "circuit has no connection"
  match ← encodeFor snap.destCGO true rc with
  | .error e =>
    refund
    return .error e
  | .ok payload =>
    let cmd : LinkCmd :=
      if rc.command = relayExtend2 ∨ rc.command = relayExtend then .relayEarly else .relay
    if dest ≥ 0 then
      match ← Prog.lift (SendAct.encryptOnion cmd dest payload) with
      | .error e =>
        refund
        return .error s!"onion encrypt: {e}"
      | .ok (encryptedPayload, forwardTag) =>
        emitCell refund recordSendme true ⟨snap.id, cmd, encryptedPayload⟩ forwardTag
    else emitCell refund recordSendme false ⟨snap.id, cmd, payload⟩ none

def sendRelayCellToHop (relayCell : Option RelayCell) (hopIndex : ℤ) : SendProg (Except String Unit) := do
  let some rc := relayCell | return .error "relay cell is nil"
  let snap ← Prog.lift snapshot
  if snap.state ≠ .opened ∧ snap.state ≠ .building then
    return .error s!"circuit not usable: state={snap.state}"
  if hopIndex < 0 ∨ hopIndex ≥ snap.nHops then
    return .error s!"hop index {hopIndex} out of range [0,{snap.nHops})"
  if !snap.conn then
    return .error "circuit has no connection"
  let destCGO ← Prog.lift (hopUsesCGO hopIndex.toNat)
  match ← encodeFor destCGO false rc with
  | .error e => return .error e
  | .ok payload =>
    match ← Prog.lift (SendAct.encryptOnion .relay hopIndex payload) with
    | .error e => return .error s!"onion encrypt to hop {hopIndex}: {e}"
    | .ok (out, _) =>
      match ← Prog.lift (SendAct.sendCell true ⟨snap.id, .relay, out⟩) with
      | .error e => return .error s!"failed to send cell: {e}"
      | .ok _ => return .ok ()

/-! ### A circuit to compute with -/

def oneHopMaterial : Bytes := List.replicate 72 7

def oneHop : Sender where
  id := 7
  conn := true
  state := .opened
  hops := (deriveHopFromKeyMaterial false oneHopMaterial).toOption.toList

end GoTor.Circuit

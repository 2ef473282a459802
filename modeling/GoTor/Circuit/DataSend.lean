import GoTor.Circuit.Deliver
import GoTor.Circuit.SendOrder
import GoTor.Lib.EveryNth

/-!
# Sending DATA cells

`sendRelayCellLocal`, as any number of goroutines run it on one circuit: `reserveDataWindows`
takes a cell out of the circuit's and the stream's window, `emitRelayCell` encrypts and writes it,
and the tag of every cell on a SENDME boundary is queued.  Whether a cell is on a boundary is
decided when it is reserved; which number it has is decided when it is written.  The read loop
processes the SENDMEs of a relay that acknowledges the cells in the order in which they were
written.
-/

namespace GoTor.Circuit

open GoTor.Lib GoTor.Crypto GoTor.Cell

/-- `decrementPackageWindowForSendme`: whether the cell is on a SENDME boundary. -/
def Circ.decrementPackageWindowForSendme (c : Circ) : Except String (Circ × Bool) :=
  match c.vegas with
  | some v =>
    if v.inflight ≥ v.cwnd then
      .error "package window exhausted: cannot send more cells until SENDME received"
    else
      let v := { v with inflight := v.inflight + 1 }
      .ok ({ c with vegas := some v, packageWindow := v.packageWindow }, v.inflight % c.sendmeInc = 0)
  | none =>
    if c.packageWindow ≤ 0 then
      .error "package window exhausted: cannot send more cells until SENDME received"
    else
      .ok ({ c with packageWindow := c.packageWindow - 1 }, (c.packageWindow - 1) % c.sendmeIncrement = 0)

def Sender.decrementStreamPackageWindow (c : Sender) (streamID : UInt16) : Except String Sender :=
  match c.getStream streamID with
  | none => .ok c
  | some s =>
    if s.packageWindow ≤ 0 then
      .error "package window exhausted: cannot send more cells until SENDME received"
    else .ok (c.updateStream streamID fun s => { s with packageWindow := s.packageWindow - 1 })

def encodeSendmeV1 (digest : Bytes) : Except String Bytes :=
  if digest.length ≠ 20 ∧ digest.length ≠ 16 then
    .error s!"SENDME v1 tag must be 20 or 16 bytes, got {digest.length}"
  else .ok ([1] ++ putUint16 (UInt16.ofNat digest.length) ++ digest)

/-! ### Critical sections -/

inductive DataAct
  /-- `decrementPackageWindowForSendme`. -/
  | reserve
  | reserveStream (streamID : UInt16)
  | waitForSendWake
  /-- A section of `emitRelayCell` and its like; `data` marks those for a DATA cell. -/
  | emit (data : Bool) (a : SendAct)
  /-- The read loop processes the relay's next circuit SENDME. -/
  | processSendme

@[reducible] def DataAct.Resp : DataAct → Type
  | .reserve => Except String Bool
  | .reserveStream _ => Except String Unit
  | .waitForSendWake => Except String Unit
  | .emit _ a => a.Resp
  | .processSendme => Unit

abbrev DataProg := Prog DataAct DataAct.Resp

/-- The sections of a sender, as sections of the larger system. -/
def hoist {R : Type} (data : Bool) : SendProg R → DataProg R
  | .done r => .done r
  | .act a k => .act (.emit data a) fun r => hoist data (k r)

/-- `reserveDataWindows`; `tries` bounds how often it is woken before its deadline.  Both windows
fail only by being used up. -/
def reserveDataWindows (streamID : UInt16) (destCGO : Bool) : ℕ → DataProg (Except String Bool)
  | 0 => return .error "timeout waiting for package window"
  | tries + 1 => do
    match ← Prog.lift DataAct.reserve with
    | .error _ =>
      match ← Prog.lift DataAct.waitForSendWake with
      | .error e => return .error e
      | .ok _ => reserveDataWindows streamID destCGO tries
    | .ok recordSendme =>
      if destCGO || streamID == 0 then return .ok recordSendme
      else
        match ← Prog.lift (DataAct.reserveStream streamID) with
        | .error _ =>
          Prog.lift (DataAct.emit true .refundPackageWindow)
          match ← Prog.lift DataAct.waitForSendWake with
          | .error e => return .error e
          | .ok _ => reserveDataWindows streamID destCGO tries
        | .ok _ => return .ok recordSendme

def sendRelayCellLocal (rc : RelayCell) (tries : ℕ) : DataProg (Except String Unit) := do
  if rc.command = relayData then
    let snap ← Prog.lift (DataAct.emit true .snapshot)
    match ← reserveDataWindows rc.streamID snap.destCGO tries with
    | .error e => return .error e
    | .ok recordSendme => hoist true (emitRelayCell rc recordSendme true)
  else hoist false (emitRelayCell rc false false)

/-! ### The circuit and its relay -/

inductive DataChoice
  | send (ch : SendChoice)
  /-- The window Vegas makes of a SENDME. -/
  | cwnd (n : ℕ)
  deriving DecidableEq

def DataChoice.sendChoice : DataChoice → SendChoice
  | .send ch => ch
  | .cwnd _ => .done

/-- The circuit, and what the relay and the goroutines know. -/
structure DataState (Tid : Type) where
  send : SendState Tid
  sendmeInc : ℕ
  /-- The tag of each goroutine's last encryption. -/
  tags : Tid → Bytes := fun _ => []
  /-- Reserved cells, with their mark, that are neither given back nor written and recorded. -/
  reserved : List (Tid × Bool) := []
  /-- The tags of the DATA cells written, in order. -/
  emitted : List Bytes := []
  /-- Those of boundary cells whose goroutine is about to record them. -/
  unrecorded : List Bytes := []
  acked : ℕ := 0
  rejected : Bool := false

namespace DataState

variable {Tid : Type} [DecidableEq Tid] (s : DataState Tid)

/-- The circuit, with the increment its windows are counted in. -/
def circ : Circ := { toSender := s.send.circ, sendmeInc := s.sendmeInc }

def setCirc (c : Sender) : DataState Tid :=
  { s with send := { s.send with circ := c } }

/-- The reservations of the other goroutines. -/
def release (t : Tid) : List (Tid × Bool) := s.reserved.filter (·.1 ≠ t)

def noteWritten (t : Tid) : DataState Tid :=
  if (t, true) ∈ s.reserved then
    { s with emitted := s.emitted ++ [s.tags t], unrecorded := s.unrecorded ++ [s.tags t] }
  else { s with emitted := s.emitted ++ [s.tags t], reserved := s.release t }

/-- What a section of a DATA sender tells about its cell. -/
def note (t : Tid) : (a : SendAct) → a.Resp → DataState Tid → DataState Tid
  | .encryptOnion _ _ _, .ok (_, tag), s =>
    { s with tags := Function.update s.tags t ((Sender.sendmeAuthTag (tag.getD [])).getD []) }
  | .sendCell _ _, .ok _, s => s.noteWritten t
  | .refundPackageWindow, _, s => { s with reserved := s.release t }
  | .recordSendmeTag _, _, s =>
    { s with unrecorded := s.unrecorded.erase (s.tags t), reserved := s.release t }
  | _, _, s => s

/-- The next SENDME of the relay, once the cell it acknowledges has been written. -/
def nextSendme (s : DataState Tid) : Option Bytes :=
  (everyNth s.circ.sendmeIncrement s.emitted)[s.acked]?

/-- `processCircuitSendme` for the relay's next SENDME. -/
def processSendme (s : DataState Tid) (cwnd : ℕ) : Option (DataState Tid) := do
  let tag ← s.nextSendme
  let payload ← (encodeSendmeV1 tag).toOption
  let inflight := (s.circ.vegas.map VegasWindow.inflight).getD 0 - s.sendmeInc
  match s.circ.processCircuitSendme payload ⟨inflight, cwnd⟩ with
  | .error _ => some { s with acked := s.acked + 1, rejected := true }
  | .ok c => some { s.setCirc c.toSender with acked := s.acked + 1 }

variable (P : Primitives)

def exec (t : Tid) : (a : DataAct) → DataChoice → DataState Tid → Option (a.Resp × DataState Tid)
  | .reserve, _, s =>
    match s.circ.decrementPackageWindowForSendme with
    | .error e => some (.error e, s)
    | .ok (c, record) =>
      some (.ok record, { s.setCirc c.toSender with reserved := (t, record) :: s.reserved })
  | .reserveStream streamID, _, s =>
    match s.send.circ.decrementStreamPackageWindow streamID with
    | .error e => some (.error e, s)
    | .ok c => some (.ok (), s.setCirc c)
  | .waitForSendWake, .send (.fail e), s => some (.error e, s)
  | .waitForSendWake, _, s => some (.ok (), s)
  | .emit data a, ch, s =>
    (SendState.exec P t a ch.sendChoice s.send).map fun x =>
      let s := { s with send := x.2 }
      (x.1, if data then s.note t a x.1 else s)
  | .processSendme, .cwnd n, s => (s.processSendme n).map fun s => ((), s)
  | .processSendme, .send _, _ => none

end DataState

/-! ### Goroutines -/

/-- The hop gives the cells sent to it a tag. -/
def Hop.Tagging (hop : Hop) : Prop := hop.cgo.isSome ∨ hop.forwardDigest.isSome

instance : DecidablePred Hop.Tagging := fun _ => inferInstanceAs (Decidable (_ ∨ _))

inductive DataCall
  | sendRelayCell (rc : RelayCell) (tries : ℕ)
  /-- Padding for a hop on the way. -/
  | sendRelayCellToHop (rc : Option RelayCell) (hopIndex : ℤ)
  | addHop (hs : Bool) (hop : { hop : Hop // hop.Tagging })
  | setState (state : State)
  | setConnection
  | processSendme

def DataCall.prog : DataCall → DataProg Unit
  | .sendRelayCell rc tries => do
    let _ ← sendRelayCellLocal rc tries
  | .sendRelayCellToHop rc hopIndex => do
    let _ ← hoist false (Circuit.sendRelayCellToHop rc hopIndex)
  | .addHop hs hop => do
    let _ ← hoist false (Prog.lift (SendAct.addHop hs hop.1))
  | .setState state => hoist false (Prog.lift (SendAct.setState state))
  | .setConnection => hoist false (Prog.lift SendAct.setConnection)
  | .processSendme => Prog.lift DataAct.processSendme

def dataGoroutine : List DataCall → DataProg Unit
  | [] => pure ()
  | call :: calls => do
    call.prog
    dataGoroutine calls

end GoTor.Circuit

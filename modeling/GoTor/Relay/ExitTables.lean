import GoTor.Lib.Table
import GoTor.Relay.ExitStream

/-!
# The exit's streams, over all circuits

`ExitStreamManager` with the streams of all circuits: the table, the counter of each circuit and
the gate that limits the connections of the whole exit.  A stream is an object; the table names it
by circuit and stream ID, and BEGIN, BEGIN_DIR, END, the end of a pump and the closing of a circuit
update table, counter and gate in places of their own.
-/

namespace GoTor.Relay

open GoTor.Lib Function

def endReasonNotDirectory : UInt8 := 14

abbrev StreamKey := UInt32 × UInt16
abbrev StreamPtr := ℕ

/-- `exitStream`, as far as opening and closing read it. -/
structure ExitConn where
  tcp : Bool := true
  halfClosed : Bool := false
  held : Bool := true
  deriving DecidableEq

/-- A RELAY_END cell: of a handler or, with the stream object, of its pump; `holder` is the stream
under that key when it is sent. -/
structure EndSent where
  key : StreamKey
  pump : Option StreamPtr
  reason : UInt8
  holder : Option StreamPtr
  deriving DecidableEq

/-- `ExitStreamManager`. -/
structure ExitTables where
  /-- `gate.max`. -/
  gateMax : ℕ
  /-- `gate.cur`. -/
  gateCur : ℕ := 0
  heap : StreamPtr → ExitConn := fun _ => {}
  fresh : StreamPtr := 0
  streams : Table StreamKey StreamPtr := .empty
  /-- A circuit without an entry reads as zero. -/
  circStreams : UInt32 → ℤ := fun _ => 0
  /-- The pumps that have not returned, with the key they were started with. -/
  pumps : Table StreamPtr StreamKey := .empty
  ends : List EndSent := []

namespace ExitTables

variable (m : ExitTables)

/-! ### Sections -/

def acquire : Option ExitTables :=
  if m.gateCur ≥ m.gateMax then none else some { m with gateCur := m.gateCur + 1 }

def release : ExitTables := { m with gateCur := m.gateCur - 1 }

def addStream (circID : UInt32) (n : ℤ) : ExitTables :=
  { m with circStreams := update m.circStreams circID (m.circStreams circID + n) }

/-- `if m.circStreams[circID] > 0 { m.circStreams[circID]-- }`. -/
def countDown (circID : UInt32) : ExitTables :=
  if m.circStreams circID > 0 then m.addStream circID (-1) else m

def teardown (p : StreamPtr) : ExitTables :=
  if (m.heap p).held then
    { m with heap := update m.heap p { m.heap p with held := false } }.release
  else m

def sendEnd (key : StreamKey) (pump : Option StreamPtr) (reason : UInt8) : ExitTables :=
  { m with ends := m.ends ++ [⟨key, pump, reason, m.streams.get key⟩] }

/-- The first section of `HandleBegin`, with the `teardown` that follows. -/
def dropOld (key : StreamKey) : ExitTables :=
  match m.streams.get key with
  | none => m
  | some old => ({ m with streams := m.streams.erase key }.addStream key.1 (-1)).teardown old

def full (circID : UInt32) : Bool := m.circStreams circID ≥ exitMaxStreamsPerCirc

def insert (key : StreamKey) (tcp : Bool) : ExitTables :=
  { m with
    heap := update m.heap m.fresh { tcp }
    fresh := m.fresh + 1
    streams := m.streams.set key m.fresh }

def spawn (p : StreamPtr) (key : StreamKey) : ExitTables := { m with pumps := m.pumps.set p key }

/-- Take what stands under the key out of the table and count it down. -/
def delete (key : StreamKey) : ExitTables :=
  { m with streams := m.streams.erase key }.countDown key.1

/-- `removeStream`, and the `teardown` of what it returns. -/
def removeStream (key : StreamKey) : ExitTables :=
  match m.streams.get key with
  | none => m
  | some p => (m.delete key).teardown p

/-! ### Handlers -/

end ExitTables

/-- How the outside answers a BEGIN or BEGIN_DIR cell. -/
inductive OpenAnswer
  /-- Refused at once: exit policy, address, no directory cache. -/
  | refused (reason : UInt8)
  /-- Resolving, policy or dialling fails with the slot taken. -/
  | failed (reason : UInt8)
  /-- The CONNECTED cell cannot be written. -/
  | unsent (tcp : Bool)
  | opened (tcp : Bool)
  deriving DecidableEq

namespace ExitTables

variable (m : ExitTables)

def handleBegin (key : StreamKey) : OpenAnswer → ExitTables
  | .refused reason => m.sendEnd key none reason
  | answer =>
    let m := m.dropOld key
    if m.full key.1 then m.sendEnd key none endReasonResourceLimit
    else
      match m.acquire with
      | none => m.sendEnd key none endReasonResourceLimit
      | some m =>
        match answer with
        | .opened tcp =>
          let p := m.fresh
          ((m.insert key tcp).addStream key.1 1).spawn p key
        | .failed reason => (m.sendEnd key none reason).release
        | _ => m.release

/-- `HandleBeginDir`: it takes its place before it dials, and looks for no stream under the key. -/
def handleBeginDir (key : StreamKey) : OpenAnswer → ExitTables
  | .refused reason => m.sendEnd key none reason
  | answer =>
    if m.full key.1 then m.sendEnd key none endReasonResourceLimit
    else
      let m := m.addStream key.1 1
      match m.acquire with
      | none => (m.countDown key.1).sendEnd key none endReasonResourceLimit
      | some m =>
        match answer with
        | .opened tcp =>
          let p := m.fresh
          (m.insert key tcp).spawn p key
        | .unsent tcp => (m.insert key tcp).removeStream key
        | _ => (m.release.countDown key.1).sendEnd key none endReasonNotDirectory

def handleEnd (key : StreamKey) : ExitTables :=
  match m.streams.get key with
  | none => m
  | some p =>
    let es := m.heap p
    if es.halfClosed then (m.delete key).teardown p
    else
      let m := { m with heap := update m.heap p { es with halfClosed := true } }
      if es.tcp then m else (m.delete key).teardown p

/-- The end of `pumpRemoteToClient`: after a failed read an END cell goes out, and whatever
stands under the pump's key is removed. -/
def pumpEnds (p : StreamPtr) (reason : Option UInt8) : ExitTables :=
  match m.pumps.get p with
  | none => m
  | some key =>
    let m := { m with pumps := m.pumps.erase p }
    let m := match reason with
      | none => m
      | some reason => m.sendEnd key (some p) reason
    m.removeStream key

def closeCircuit (circID : UInt32) : ExitTables :=
  let toClose := (m.streams.entries.filter fun e => e.1.1 = circID).map Prod.snd
  let m := { m with
    streams := m.streams.keep fun key _ => key.1 ≠ circID
    circStreams := update m.circStreams circID 0 }
  toClose.foldl teardown m

end ExitTables

inductive ExitEvent
  | beginCell (key : StreamKey) (answer : OpenAnswer)
  | beginDir (key : StreamKey) (answer : OpenAnswer)
  | endCell (key : StreamKey)
  /-- The pump of a stream returns: its connection failed or ended (an END cell with this reason),
  it was cancelled, or a cell could not be sent. -/
  | pumpEnds (p : StreamPtr) (reason : Option UInt8)
  | closeCircuit (circID : UInt32)
  deriving DecidableEq

namespace ExitTables

/-- One event after the other; every one of them can happen at any time. -/
def step (m : ExitTables) : ExitEvent → Option ExitTables
  | .beginCell key answer => some (m.handleBegin key answer)
  | .beginDir key answer => some (m.handleBeginDir key answer)
  | .endCell key => some (m.handleEnd key)
  | .pumpEnds p reason => some (m.pumpEnds p reason)
  | .closeCircuit circID => some (m.closeCircuit circID)

end ExitTables

end GoTor.Relay

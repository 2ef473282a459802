import GoTor.Circuit.Conflux
import GoTor.Lib.Resequence

/-!
# Receiving and sending on a Conflux set

The two legs of a linked set have a connection each, so a goroutine each reads their cells.
A reader takes the mutex of the set for every SWITCH and every multiplexed cell; the cells
that become due are put into the channel of the owner after the mutex is released.  A step
below is one such section, and between two sections of a reader the other reader, or a
goroutine that closes a leg, may run.
-/

namespace GoTor.Circuit

open GoTor.Lib GoTor.Cell Function

namespace ConfluxSet

def requireExitHop (hops hopIdx : ℕ) : Except String Unit :=
  if hops = 0 ∨ hopIdx ≠ hops - 1 then
    .error s!"conflux cell from hop {hopIdx}, want exit {(hops : ℤ) - 1}"
  else .ok ()

/-- `onRelayCell` on a SWITCH cell. -/
def onSwitch (s : ConfluxSet) (l : Leg) (rc : RelayCell) (hops hopIdx : ℕ) : Except String ConfluxSet := do
  requireExitHop hops hopIdx
  let rel ← decodeConfluxSwitch rc.data
  if rel < 1 then .error "SWITCH relative seq must be >= 1"
  else s.handleSwitch l rel

/-- What `onRelayCell` and `ConfluxLinked` ask: the set is in use. -/
def inUse (s : ConfluxSet) : Bool := s.linked && !s.closed

end ConfluxSet

/-! ### Goroutines -/

/-- The sections of `teardown`, `Close` and `onLegClosed`. -/
inductive CloseOp
  | teardown
  | detach (l : Leg)
  | close (l : Leg)
  | onLegClosed (l : Leg)
  deriving DecidableEq

inductive ReaderPhase
  | idle
  /-- `onRelayCell` has found the set in use: `reorder` is next. -/
  | multiplexed (rc : RelayCell)
  /-- The set does not take the cell: it goes to the channel of the leg itself. -/
  | unhandled (rc : RelayCell)
  /-- `reorder` has released the mutex: these cells are still to be put into the channel of
  the owner. -/
  | handing (due : List (ℕ × RelayCell))
  | closing (ops : List CloseOp)
  deriving DecidableEq

def ReaderPhase.ofDue : List (ℕ × RelayCell) → ReaderPhase
  | [] => .idle
  | p :: due => .handing (p :: due)

/-- The legs of a linked set as their readers see them. -/
structure ConfluxRecv where
  set : ConfluxSet
  hops : Leg → ℕ := fun _ => 3
  phase : Leg → ReaderPhase := fun _ => .idle
  /-- What the goroutines that close a leg from outside still have to do. -/
  closer : List CloseOp := []
  /-- The field `conflux` of the circuit is set. -/
  attached : Leg → Bool := fun _ => true
  /-- The receive channel of the circuit is there. -/
  isOpen : Leg → Bool := fun _ => true
  /-- The reasons `failAndClose` was called with. -/
  errors : List String := []
  /-- The multiplexed cells the set has accepted, with the numbers their legs gave them. -/
  arrived : List (ℕ × RelayCell) := []
  /-- The cells put into the channel of the owner; a cell that has passed the set by has no
  number. -/
  handed : List (Option ℕ × RelayCell) := []

inductive RecvLabel
  /-- The reader of a leg takes up a cell that was recognised at `hopIdx`. -/
  | arrive (l : Leg) (rc : RelayCell) (hopIdx : ℕ)
  | reorder (l : Leg)
  /-- One `enqueueRelayCell`; `inTime` says that the channel takes the cell before the timer
  fires. -/
  | enqueue (l : Leg) (inTime : Bool)
  | closeOp (l : Leg)
  /-- Some other goroutine calls `Close` on a leg. -/
  | callClose (l : Leg)
  | closer

namespace ConfluxRecv

variable (s : ConfluxRecv)

def setPhase (l : Leg) (p : ReaderPhase) : ConfluxRecv :=
  { s with phase := update s.phase l p }

/-- `failAndClose`, up to its first section. -/
def failAndClose (l : Leg) (reason : String) : ConfluxRecv :=
  { s.setPhase l (.closing [.teardown]) with errors := s.errors ++ [reason] }

/-- One section of a closing, and what it brings about. -/
def close : CloseOp → ConfluxRecv × List CloseOp
  | .teardown =>
    ({ s with set := s.set.teardown.1 }, s.set.teardown.2.flatMap fun l => [.detach l, .close l])
  | .detach l => ({ s with attached := update s.attached l false }, [])
  | .close l =>
    if s.isOpen l then
      ({ s with
          isOpen := update s.isOpen l false
          attached := update s.attached l false },
        if s.attached l then [.onLegClosed l] else [])
    else (s, [])
  | .onLegClosed l =>
    ({ s with set := (s.set.onLegClosed l).1 },
      (s.set.onLegClosed l).2.flatMap fun l => [.detach l, .close l])

/-- `DeliverRelayCell` from the set on, up to the first section that decides. -/
def arrive (l : Leg) (rc : RelayCell) (hopIdx : ℕ) : ConfluxRecv :=
  if !s.attached l then s.setPhase l (.unhandled rc)
  else if rc.command = relayConfluxSwitch then
    match s.set.onSwitch l rc (s.hops l) hopIdx with
    | .error e => s.failAndClose l e
    | .ok set => { s with set := set }
  else if s.set.inUse && confluxShouldMultiplex rc.command then
    match ConfluxSet.requireExitHop (s.hops l) hopIdx with
    | .error e => s.failAndClose l e
    | .ok _ => s.setPhase l (.multiplexed rc)
  else s.setPhase l (.unhandled rc)

/-- The section of `reorder`. -/
def reorder (l : Leg) (rc : RelayCell) : ConfluxRecv :=
  match s.set.reorder l rc with
  | (set, .error e) => { s with set := set }.failAndClose l e
  | (set, .ok due) =>
    { s.setPhase l (.ofDue (numbered (s.set.lastRecv + 1) due)) with
      set := set
      arrived := s.arrived ++ [((s.set.legs l).lastRecv + 1, rc)] }

/-- One turn of the delivery loop of `reorder`. -/
def hand (l : Leg) (inTime : Bool) (p : ℕ × RelayCell) (rest : List (ℕ × RelayCell)) : ConfluxRecv :=
  if !s.isOpen .primary then s.failAndClose l "circuit closed"
  else if !inTime then s.failAndClose l "relay receive channel full or blocked"
  else { s.setPhase l (.ofDue rest) with handed := s.handed ++ [(some p.1, p.2)] }

/-- `enqueueRelayCell` for a cell that the set has not taken. -/
def passBy (l : Leg) (inTime : Bool) (rc : RelayCell) : ConfluxRecv :=
  if s.isOpen l && inTime && l = .primary then
    { s.setPhase l .idle with handed := s.handed ++ [(none, rc)] }
  else s.setPhase l .idle

def step : RecvLabel → Option ConfluxRecv
  | .arrive l rc hopIdx =>
    match s.phase l with
    | .idle =>
      if rc.command = relayConfluxSwitch || confluxShouldMultiplex rc.command then
        some (s.arrive l rc hopIdx)
      else none
    | _ => none
  | .reorder l =>
    match s.phase l with
    | .multiplexed rc => some (s.reorder l rc)
    | _ => none
  | .enqueue l inTime =>
    match s.phase l with
    | .handing (p :: rest) => some (s.hand l inTime p rest)
    | .unhandled rc => some (s.passBy l inTime rc)
    | _ => none
  | .closeOp l =>
    match s.phase l with
    | .closing [] => some (s.setPhase l .idle)
    | .closing (op :: ops) =>
      some ((s.close op).1.setPhase l (.closing ((s.close op).2 ++ ops)))
    | _ => none
  | .callClose l => some { s with closer := s.closer ++ [.close l] }
  | .closer =>
    match s.closer with
    | [] => none
    | op :: ops => some { (s.close op).1 with closer := (s.close op).2 ++ ops }

end ConfluxRecv

/-- A set whose handshake has just finished, before the first cell. -/
structure FreshRecv (s : ConfluxRecv) : Prop where
  linked : s.set.linked = true
  notClosed : s.set.closed = false
  lastRecv : s.set.lastRecv = 0
  legs : ∀ l, (s.set.legs l).lastRecv = 0
  ooo : s.set.ooo = []
  phase : ∀ l, s.phase l = .idle
  attached : ∀ l, s.attached l = true
  isOpen : ∀ l, s.isOpen l = true
  closer : s.closer = []
  errors : s.errors = []
  arrived : s.arrived = []
  handed : s.handed = []

/-! ### Sending

`sendMultiplexed` holds `sendMu` from the choice of the SWITCH to the end, so one cell is under way
at a time; which leg it takes is up to the round-trip times and windows, and here to the label.  A
leg is a first-in first-out wire, and the readers of the receiving set take their cells from the
two wires. -/

def encodeConfluxSwitch (rel : ℕ) : Bytes := bytesOfNat 4 rel

/-- The sending side of `ConfluxSet`. -/
structure ConfluxSend where
  current : Leg
  lastSent : ℕ := 0
  /-- `lastSent` of the two legs. -/
  legSent : Leg → ℕ := fun _ => 0
  /-- A SWITCH is out and the cell it was sent for is not. -/
  switched : Option (Leg × RelayCell) := none
  closed : Bool := false

namespace ConfluxSend

/-- What `sendMultiplexed` has to send before a cell on leg `l`: the relative number of a
SWITCH, if it needs one. -/
def needSwitch (s : ConfluxSend) (l : Leg) : Except String (Option ℕ) :=
  if s.current = l then .ok none
  else
    let gap := s.lastSent - s.legSent l
    if gap > 2 ^ 32 - 1 then .error "conflux SWITCH relative seq overflows 32 bits"
    else if gap ≥ 1 then .ok (some gap)
    else .ok none

/-- The section after a SWITCH has been sent. -/
def afterSwitch (s : ConfluxSend) (l : Leg) (rc : RelayCell) : ConfluxSend :=
  { s with
    current := l
    legSent := update s.legSent l s.lastSent
    switched := some (l, rc) }

/-- The last section: the cell has been sent. -/
def afterCell (s : ConfluxSend) (l : Leg) : ConfluxSend :=
  { s with
    current := l
    lastSent := s.lastSent + 1
    legSent := update s.legSent l (s.lastSent + 1)
    switched := none }

end ConfluxSend

/-- An honest sender, the two legs in transit, and the receiving set. -/
structure ConfluxNet where
  sender : ConfluxSend
  wire : Leg → List RelayCell := fun _ => []
  recv : ConfluxRecv
  sent : List RelayCell := []

inductive NetLabel
  /-- `sendMultiplexed` of a cell, on leg `l`: up to and including the first cell it sends. -/
  | send (l : Leg) (rc : RelayCell)
  /-- The rest of it, after a SWITCH; `ok` says that the cell can be written. -/
  | finish (ok : Bool)
  /-- The reader of a leg takes up the next cell, which the last hop has sent. -/
  | arrive (l : Leg)
  | reorder (l : Leg)
  | enqueue (l : Leg) (inTime : Bool)
  | closeOp (l : Leg)

namespace ConfluxNet

variable (s : ConfluxNet)

def put (l : Leg) (rc : RelayCell) : Leg → List RelayCell :=
  update s.wire l (s.wire l ++ [rc])

def sendCell (l : Leg) (rc : RelayCell) : ConfluxNet :=
  { s with sender := s.sender.afterCell l, wire := s.put l rc, sent := s.sent ++ [rc] }

/-- `sendMultiplexed`, once the leg is chosen.  A cell that cannot be written, and a leg that
is too far behind, leave everything as it is: that call is no step. -/
def send (l : Leg) (rc : RelayCell) : Option ConfluxNet :=
  match s.sender.needSwitch l with
  | .error _ => none
  | .ok none => some (s.sendCell l rc)
  | .ok (some rel) =>
    match newRelayCell 0 relayConfluxSwitch (encodeConfluxSwitch rel) with
    | .error _ => none
    | .ok sw => some { s with sender := s.sender.afterSwitch l rc, wire := s.put l sw }

def step : NetLabel → Option ConfluxNet
  | .send l rc =>
    if s.sender.closed || s.sender.switched.isSome || !confluxShouldMultiplex rc.command then none
    else s.send l rc
  | .finish ok =>
    match s.sender.switched with
    | none => none
    | some (l, rc) =>
      if ok then some (s.sendCell l rc)
      -- `failAndClose` after a SWITCH without its cell
      else some { s with sender := { s.sender with switched := none, closed := true } }
  | .arrive l =>
    match s.wire l with
    | [] => none
    | rc :: rest =>
      (s.recv.step (.arrive l rc (s.recv.hops l - 1))).map fun r =>
        { s with recv := r, wire := update s.wire l rest }
  | .reorder l => (s.recv.step (.reorder l)).map fun r => { s with recv := r }
  | .enqueue l inTime => (s.recv.step (.enqueue l inTime)).map fun r => { s with recv := r }
  | .closeOp l => (s.recv.step (.closeOp l)).map fun r => { s with recv := r }

end ConfluxNet

structure FreshNet (s : ConfluxNet) : Prop where
  recv : FreshRecv s.recv
  hops : ∀ l, s.recv.hops l ≠ 0
  lastSent : s.sender.lastSent = 0
  legSent : ∀ l, s.sender.legSent l = 0
  switched : s.sender.switched = none
  wire : ∀ l, s.wire l = []
  sent : s.sent = []

end GoTor.Circuit

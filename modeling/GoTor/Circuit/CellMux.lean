import GoTor.Cell.Link
import GoTor.Lib.Run

/-!
# The cell multiplexer of a client connection

One goroutine reads the cells of the connection and dispatches them: CREATED2 and DESTROY go to
the goroutine that creates the circuit, if it has announced itself, and a DESTROY for any other
registered circuit closes that circuit.  A goroutine that builds a circuit registers it, then
announces itself, sends CREATE2 and waits.  A step below is one section of the mutex `m.mu` or
one operation on a channel.
-/

namespace GoTor.Circuit

open GoTor.Cell Function Command

structure MuxCell where
  serial : ℕ
  cell : Cell
  deriving DecidableEq

def MuxCell.isDestroy (c : MuxCell) : Bool := c.cell.command = destroy

def MuxCell.reason (c : MuxCell) : UInt8 := c.cell.payload.getD 0 0

/-- Where `CreateFirstHop` stands, from the registration of its circuit on. -/
inductive CreatorPhase
  | idle
  | registered
  /-- `ExpectCreated2` has been called. -/
  | expecting
  | sent
  /-- CREATE2 could not be sent: `ForgetCreated2` is next. -/
  | withdrawing (err : String)
  /-- In the `select` of `WaitCreated2`, on the channel fetched before. -/
  | waiting (ch : ℕ)
  /-- `WaitCreated2` has its result; its deferred `ForgetCreated2` is next. -/
  | leaving (r : Except String MuxCell)
  | done (r : Except String MuxCell)

inductive MuxReader
  | top
  | receiving
  | dispatching (c : MuxCell)
  /-- The waiter's channel has been looked up: the cell is offered to it. -/
  | offering (ch : ℕ) (c : MuxCell)
  /-- No waiter: the circuit is looked up next. -/
  | finding (c : MuxCell)
  | stopped
  deriving DecidableEq

/-- `CellMux`, the goroutines that use it, and what they have observed. -/
structure CellMux where
  circuits : UInt32 → Bool := fun _ => false
  /-- The waiters' channels; those of one circuit are numbered. -/
  created : UInt32 → Option ℕ := fun _ => none
  /-- What the channels hold; their capacity is one. -/
  chan : UInt32 → ℕ → Option MuxCell := fun _ _ => none
  nextChan : ℕ := 0
  closed : Bool := false
  reader : MuxReader := .top
  creator : UInt32 → CreatorPhase := fun _ => .idle
  serial : ℕ := 0
  /-- The DESTROY cells read for circuits registered at that time. -/
  destroys : List MuxCell := []
  /-- The DESTROY cells for which the `WaitCreated2` of a circuit has returned an error. -/
  waitErrors : List (UInt32 × MuxCell) := []
  /-- The DESTROY cells of which a registered circuit was told. -/
  told : List MuxCell := []

/-- How the `select` of `WaitCreated2` ends. -/
inductive WaitChoice
  | ctxDone (err : String)
  | muxClosed
  | cell
  deriving DecidableEq

inductive MuxLabel
  /-- The reader's next section; `ReceiveCell` has nothing to choose there. -/
  | reader
  | receive (c : Cell)
  | receiveFails
  | closeMux
  /-- The next section of the goroutine that creates a circuit, where nothing is open. -/
  | creator (id : UInt32)
  /-- `SendCell` of the CREATE2 cell returns, perhaps with an error. -/
  | sendCreate2 (id : UInt32) (err : Option String)
  | select (id : UInt32) (choice : WaitChoice)

namespace CellMux

variable (s : CellMux) (id : UInt32)

def setCreator (p : CreatorPhase) : CellMux :=
  { s with creator := update s.creator id p }

def setChan (ch : ℕ) (c : Option MuxCell) : CellMux :=
  { s with chan := update s.chan id (update (s.chan id) ch c) }

def registerCircuit : CellMux :=
  { s with circuits := update s.circuits id true }

/-- `ExpectCreated2`, and the first section of `WaitCreated2`: the waiter's channel, made if
there is none. -/
def expectCreated2 : CellMux × ℕ :=
  match s.created id with
  | some ch => (s, ch)
  | none =>
    ({ s with
        created := update s.created id (some s.nextChan)
        nextChan := s.nextChan + 1 },
      s.nextChan)

def forgetCreated2 : CellMux :=
  { s with created := update s.created id none }

def takeCreated (ch : ℕ) (c : MuxCell) : CellMux :=
  let s := s.setChan id ch none
  if c.isDestroy then
    { s.setCreator id
        (.leaving (.error s!"circuit {id} destroyed during CREATE2: reason={c.reason}")) with
      waitErrors := s.waitErrors ++ [(id, c)] }
  else s.setCreator id (.leaving (.ok c))

/-- The `select` of `WaitCreated2`. -/
def waitSelect (ch : ℕ) : WaitChoice → Option CellMux
  | .ctxDone err =>
    some (s.setCreator id (.leaving (.error s!"timeout waiting for CREATED2: {err}")))
  | .muxClosed =>
    if s.closed then
      some (s.setCreator id (.leaving (.error "cell mux closed while waiting for CREATED2")))
    else none
  | .cell => (s.chan id ch).map (s.takeCreated id ch)

/-- `dispatch`, its first section. -/
def dispatch (c : MuxCell) : CellMux :=
  if c.cell.command = created2 ∨ c.cell.command = destroy then
    match s.created c.cell.circID with
    | some ch => { s with reader := .offering ch c }
    | none =>
      if c.isDestroy then { s with reader := .finding c } else { s with reader := .top }
  -- RELAY cells go to `DeliverRelayCell`; padding and the rest are ignored
  else { s with reader := .top }

/-- The `select` with a `default` in `dispatch`: a full channel loses the cell. -/
def offer (ch : ℕ) (c : MuxCell) : CellMux :=
  let s := { s with reader := .top }
  if (s.chan c.cell.circID ch).isNone then s.setChan c.cell.circID ch (some c) else s

/-- A registered circuit is told and closed, which closes its mux. -/
def findCircuit (c : MuxCell) : CellMux :=
  if s.circuits c.cell.circID then
    { s with reader := .top, told := s.told ++ [c], closed := true }
  else { s with reader := .top }

def receive (c : Cell) : CellMux :=
  let m : MuxCell := ⟨s.serial, c⟩
  { s with
    serial := s.serial + 1
    reader := .dispatching m
    destroys := if m.isDestroy && s.circuits c.circID then s.destroys ++ [m] else s.destroys }

def step : MuxLabel → Option CellMux
  | .reader =>
    match s.reader with
    | .top => some { s with reader := if s.closed then .stopped else .receiving }
    | .dispatching c => some (s.dispatch c)
    | .offering ch c => some (s.offer ch c)
    | .finding c => some (s.findCircuit c)
    | .receiving | .stopped => none
  | .receive c => if s.reader = .receiving then some (s.receive c) else none
  | .receiveFails =>
    if s.reader = .receiving then some { s with reader := .stopped, closed := true } else none
  | .closeMux => some { s with closed := true }
  | .creator id =>
    match s.creator id with
    | .idle => some ((s.registerCircuit id).setCreator id .registered)
    | .registered => some ((s.expectCreated2 id).1.setCreator id .expecting)
    | .sent => some ((s.expectCreated2 id).1.setCreator id (.waiting (s.expectCreated2 id).2))
    | .withdrawing err =>
      some ((s.forgetCreated2 id).setCreator id
        (.done (.error s!"failed to send CREATE2 cell: {err}")))
    | .leaving r => some ((s.forgetCreated2 id).setCreator id (.done r))
    | _ => none
  | .sendCreate2 id err =>
    match s.creator id with
    | .expecting => some (s.setCreator id (err.elim .sent .withdrawing))
    | _ => none
  | .select id choice =>
    match s.creator id with
    | .waiting ch => s.waitSelect id ch choice
    | _ => none

end CellMux

structure FreshMux (s : CellMux) : Prop where
  creator : ∀ id, s.creator id = .idle
  reader : s.reader = .top
  destroys : s.destroys = []

end GoTor.Circuit

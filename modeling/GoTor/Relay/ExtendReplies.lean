import GoTor.Relay.OutboundIDs

/-!
# Answers to CREATE2

Every EXTEND2 request writes a CREATE2 cell to a next hop and waits for the answer.  Connections
are pooled under a key of address and identity.  Once an extension over a key has succeeded a
reader runs on its connection and gives a cell to the request that is registered in the table of
pending requests under its circuit ID; before that a request reads from the connection itself
and takes what comes.  The request looks which of the two applies, and registers, after it
has written CREATE2.
-/

namespace GoTor.Relay

open GoTor.Lib Function

/-- Where `HandleExtend2` stands after it has written CREATE2. -/
inductive WaitPhase
  /-- Before `linkReaders` is read. -/
  | sent
  /-- Before `registerPending`. -/
  | toRegister
  | onChannel
  /-- In `ReceiveCellWithContext`. -/
  | direct
  /-- CREATED2 has been accepted; the circuit is about to be registered. -/
  | created
  | ended
  deriving DecidableEq

def WaitPhase.waiting : WaitPhase → Bool
  | .sent | .toRegister | .onChannel | .direct => true
  | .created | .ended => false

inductive ReplyKind
  | created2
  | destroy
  | padding
  | other
  deriving DecidableEq

/-- A cell from a next hop; `origin` is the request it answers, if it is an answer. -/
structure Reply where
  origin : Option ExtPtr
  id : UInt32
  kind : ReplyKind
  deriving DecidableEq

/-- A request.  `answered` and `taken` say whether its answer has been written and has been taken
off the link. -/
structure Waiter where
  conn : NextConnPtr
  id : UInt32
  phase : WaitPhase
  channel : Option Reply := none
  answered : Bool := false
  taken : Bool := false
  deriving DecidableEq

structure ReplyNet where
  exts : ExtPtr → Waiter := fun _ => ⟨0, 0, .ended, none, true, true⟩
  fresh : ExtPtr := 0
  /-- `linkReaders`, by pool key. -/
  flags : Bytes → Bool := fun _ => false
  /-- The readers that run, with the cell they have received. -/
  readers : Table NextConnPtr (Option Reply) := .empty
  /-- `pendingCreate`. -/
  pending : Table (Bytes × UInt32) ExtPtr := .empty
  /-- What each next hop has written and nobody has received. -/
  stream : NextConnPtr → List Reply := fun _ => []
  closed : NextConnPtr → Bool := fun _ => false
  /-- An answer to the first request taken by the second. -/
  delivered : List (ExtPtr × ExtPtr) := []
  /-- Requests that were waiting when their answer was discarded. -/
  lost : List ExtPtr := []

inductive ReplyStep
  /-- A CREATE2 cell is written on a connection of the pool. -/
  | send (conn : NextConnPtr) (draw : Option UInt32)
  /-- The next hop answers, with CREATED2 or DESTROY. -/
  | answer (x : ExtPtr) (created : Bool)
  /-- The next hop sends a cell that answers nothing. -/
  | noise (conn : NextConnPtr) (id : UInt32) (kind : ReplyKind)
  | readFlag (x : ExtPtr)
  | register (x : ExtPtr)
  /-- `case respCell = <-ch`. -/
  | channelTake (x : ExtPtr)
  /-- `ReceiveCellWithContext` returns a cell. -/
  | directTake (x : ExtPtr)
  | timeout (x : ExtPtr)
  /-- `ensureLinkReader`, or the request fails before it. -/
  | ensure (x : ExtPtr) (registered : Bool)
  /-- The reader of a connection receives a cell. -/
  | readerTake (conn : NextConnPtr)
  /-- `deliverPending`, and otherwise `DeliverFromNextHop`. -/
  | readerDeliver (conn : NextConnPtr)
  /-- The next hop has closed the connection. -/
  | readerEnd (conn : NextConnPtr)
  deriving DecidableEq

namespace ReplyNet

variable (keyOf : NextConnPtr → Bytes) (s : ReplyNet)

def key (x : ExtPtr) : Bytes := keyOf (s.exts x).conn

def put (x : ExtPtr) (w : Waiter) : ReplyNet := { s with exts := update s.exts x w }

/-- The answer a cell is has been taken. -/
def take (r : Reply) : ReplyNet :=
  match r.origin with
  | none => s
  | some o => s.put o { s.exts o with taken := true }

/-- What `receiveCreated2FromNextHop` makes of a cell: padding is skipped. -/
def afterCell (x : ExtPtr) (skip : WaitPhase) (r : Reply) : WaitPhase :=
  match r.kind with
  | .padding => skip
  | .created2 => if r.id = (s.exts x).id then .created else .ended
  | _ => .ended

def receive (x : ExtPtr) (skip : WaitPhase) (r : Reply) : ReplyNet :=
  let s' := s.take r
  { s'.put x { s'.exts x with phase := s.afterCell x skip r, channel := none } with
    delivered := s.delivered ++ r.origin.toList.map fun o => (o, x) }

def unregister (x : ExtPtr) : ReplyNet :=
  { s with pending := s.pending.erase (s.key keyOf x, (s.exts x).id) }

/-- `readOutboundLink` with a cell it has received. -/
def deliver (conn : NextConnPtr) (r : Reply) : ReplyNet :=
  let s := { s with readers := s.readers.set conn none }
  match s.pending.get (keyOf conn, r.id) with
  | some y =>
    let s := { s with pending := s.pending.erase (keyOf conn, r.id) }
    let s := s.take r
    s.put y { s.exts y with channel := (s.exts y).channel.or (some r) }
  | none =>
    { s.take r with
      lost := s.lost ++ r.origin.toList.filter fun o => (s.exts o).phase.waiting }

/-- The other requests that wait for an answer on the connection a request closes. -/
def discarded (x : ExtPtr) : List ExtPtr :=
  ((s.stream (s.exts x).conn).filterMap Reply.origin).filter fun o =>
    decide (o ≠ x) && (s.exts o).phase.waiting

def step (s : ReplyNet) : ReplyStep → Option ReplyNet
  | .send conn draw =>
    if s.closed conn then none
    else some { s.put s.fresh ⟨conn, newOutboundCircID draw, .sent, none, false, false⟩ with
      fresh := s.fresh + 1 }
  | .answer x created =>
    let w := s.exts x
    if w.answered || s.closed w.conn then none
    else some { s.put x { w with answered := true } with
      stream := update s.stream w.conn (s.stream w.conn ++
        [⟨some x, w.id, if created then .created2 else .destroy⟩]) }
  | .noise conn id kind =>
    if s.closed conn then none
    else some { s with
      stream := update s.stream conn (s.stream conn ++ [⟨none, id, kind⟩]) }
  | .readFlag x =>
    if (s.exts x).phase = .sent then
      some (s.put x { s.exts x with
        phase := if s.flags (s.key keyOf x) then .toRegister else .direct })
    else none
  | .register x =>
    if (s.exts x).phase = .toRegister then
      some { s.put x { s.exts x with phase := .onChannel, channel := none } with
        pending := s.pending.set (s.key keyOf x, (s.exts x).id) x }
    else none
  | .channelTake x =>
    match (s.exts x).channel with
    | some r =>
      if (s.exts x).phase = .onChannel then
        some ((s.unregister keyOf x).receive x .toRegister r)
      else none
    | none => none
  | .directTake x =>
    match s.stream (s.exts x).conn with
    | r :: rest =>
      if (s.exts x).phase = .direct then
        some (receive { s with stream := update s.stream (s.exts x).conn rest } x .direct r)
      else none
    | [] => none
  | .timeout x =>
    match (s.exts x).phase with
    | .onChannel => some ((s.unregister keyOf x).put x { s.exts x with phase := .ended })
    | .direct => some { s.put x { s.exts x with phase := .ended } with
        closed := update s.closed (s.exts x).conn true
        stream := update s.stream (s.exts x).conn []
        lost := s.lost ++ s.discarded x }
    | _ => none
  | .ensure x registered =>
    if (s.exts x).phase = .created then
      let s' := s.put x { s.exts x with phase := .ended }
      -- a reader on a closed connection would end at once
      if !registered || s.flags (s.key keyOf x) || s.closed (s.exts x).conn then some s'
      else some { s' with
        flags := update s.flags (s.key keyOf x) true
        readers := s.readers.set (s.exts x).conn none }
    else none
  | .readerTake conn =>
    match s.readers.get conn, s.stream conn with
    | some none, r :: rest => some { s with
        readers := s.readers.set conn (some r)
        stream := update s.stream conn rest }
    | _, _ => none
  | .readerDeliver conn =>
    match s.readers.get conn with
    | some (some r) => some (s.deliver keyOf conn r)
    | _ => none
  | .readerEnd conn =>
    if s.readers.get conn = some none ∧ s.stream conn = [] then
      some { s with
        readers := s.readers.erase conn
        flags := update s.flags (keyOf conn) false
        closed := update s.closed conn true }
    else none

/-- The cells on the link, the one its reader holds first. -/
def inFlight (conn : NextConnPtr) : List Reply :=
  (s.readers.get conn).join.toList ++ s.stream conn

/-- **Answers reach their requests**: none was taken by another request or discarded while its
request waited, and where a request waits for an answer on the link, the reader of the connection
or the request itself reads it. -/
structure Matched (s : ReplyNet) : Prop where
  delivered : ∀ d ∈ s.delivered, d.1 = d.2
  lost : s.lost = []
  served : ∀ conn, ∀ r ∈ s.inFlight conn, ∀ o, r.origin = some o → (s.exts o).phase.waiting = true →
    s.readers.get conn ≠ none ∨ (s.exts o).phase = .direct

/-- The request waits, or its answer may still come. -/
def Unsettled (x : ExtPtr) : Prop :=
  (s.exts x).phase.waiting = true ∨ (s.exts x).taken = false

instance (x : ExtPtr) : Decidable (s.Unsettled x) := inferInstanceAs (Decidable (_ ∨ _))

/-- What an unsettled request of the same key allows a new one on this connection. -/
def RoomFor (conn : NextConnPtr) (id : UInt32) (y : ExtPtr) : Prop :=
  (s.exts y).conn = conn ∧ (s.exts y).id ≠ id ∧ (s.exts y).phase ≠ .direct ∧ s.readers.get conn ≠ none

/-- * A CREATE2 cell is written with an ID that no unsettled request of its key has, on the one
  connection in use under the key; while this has no reader, one request at a time is unsettled.
* The next hop answers when the request has begun to wait, and sends nothing else with its ID.
* No reader is started while a request reads from the connection. -/
def InTurn (s : ReplyNet) : ReplyStep → Prop
  | .send conn draw =>
    (∀ y < s.fresh, s.Unsettled y → s.key keyOf y = keyOf conn → s.RoomFor conn (newOutboundCircID draw) y) ∧
    (∀ e ∈ s.readers.entries, keyOf e.1 = keyOf conn → e.1 = conn) ∧
    ∀ r ∈ s.inFlight conn, r.id ≠ newOutboundCircID draw
  | .answer x _ => (s.exts x).phase ≠ .sent ∧ (s.exts x).phase ≠ .toRegister
  | .noise conn id _ => ∀ y < s.fresh, s.Unsettled y → (s.exts y).conn = conn → (s.exts y).id ≠ id
  | .ensure x _ => ∀ y < s.fresh, s.Unsettled y → s.key keyOf y = s.key keyOf x →
      (s.exts y).conn = (s.exts x).conn ∧ (s.exts y).phase ≠ .direct
  | _ => True

instance (conn : NextConnPtr) (id : UInt32) (y : ExtPtr) : Decidable (s.RoomFor conn id y) :=
  inferInstanceAs (Decidable (_ ∧ _ ∧ _ ∧ _))

instance decidableInTurn (s : ReplyNet) : (e : ReplyStep) → Decidable (s.InTurn keyOf e)
  | .send conn draw => inferInstanceAs (Decidable ((∀ y < s.fresh, s.Unsettled y → s.key keyOf y = keyOf conn →
        s.RoomFor conn (newOutboundCircID draw) y) ∧
      (∀ e ∈ s.readers.entries, keyOf e.1 = keyOf conn → e.1 = conn) ∧
      ∀ r ∈ s.inFlight conn, r.id ≠ newOutboundCircID draw))
  | .answer _ _ => inferInstanceAs (Decidable (_ ∧ _))
  | .noise conn id _ => inferInstanceAs (Decidable (
      ∀ y < s.fresh, s.Unsettled y → (s.exts y).conn = conn → (s.exts y).id ≠ id))
  | .ensure x _ => inferInstanceAs (Decidable (
      ∀ y < s.fresh, s.Unsettled y → s.key keyOf y = s.key keyOf x →
        (s.exts y).conn = (s.exts x).conn ∧ (s.exts y).phase ≠ .direct))
  | .readFlag _ | .register _ | .channelTake _ | .directTake _ | .timeout _ | .readerTake _
  | .readerDeliver _ | .readerEnd _ => isTrue trivial

end ReplyNet

end GoTor.Relay

import GoTor.Cell.Relay

/-!
# Conflux sets

Two linked circuits that carry one sequence of cells.  Each leg counts the cells that arrive
on it; a SWITCH cell moves the count of a leg forward, and cells ahead of their turn wait in
the out-of-order buffer.  The functions here are the critical sections of the set's mutex;
what they do to the circuits themselves is left to the caller.
-/

namespace GoTor.Circuit

open GoTor.Lib GoTor.Cell

/-- The two circuits of a set.  The primary one is the owner: it receives the cells. -/
inductive Leg
  | primary
  | secondary
  deriving DecidableEq

def Leg.other : Leg → Leg
  | .primary => .secondary
  | .secondary => .primary

def confluxOOOLimit : ℕ := 256

/-- `confluxLeg`, as far as receiving goes. -/
structure ConfluxLeg where
  lastRecv : ℕ := 0
  gotLinked : Bool := false
  ackSent : Bool := false
  /-- The buffered channel `linkedCh` holds its token. -/
  linkedCh : Bool := false
  deriving DecidableEq

/-- `ConfluxSet`, as far as receiving goes. -/
structure ConfluxSet where
  nonce : Bytes
  legs : Leg → ConfluxLeg := fun _ => {}
  linked : Bool := false
  closed : Bool := false
  lastRecv : ℕ := 0
  /-- The out-of-order buffer, by absolute sequence number. -/
  ooo : List (ℕ × RelayCell) := []

def confluxShouldMultiplex (cmd : UInt8) : Bool :=
  cmd ∈ [relayBegin, relayData, relayEnd, relayConnected, relayResolve, relayResolved,
    relayBeginDir, relayXon, relayXoff]

/-- `DecodeConfluxLink`, as far as the client uses it: the nonce. -/
def decodeConfluxLink (data : Bytes) : Except String Bytes :=
  if data.length < 50 then .error s!"conflux link payload {data.length}, want 50"
  else if data.getD 0 0 ≠ 1 then
    .error s!"unsupported conflux link version {data.getD 0 0}"
  else .ok (slice data 1 33)

def decodeConfluxSwitch (data : Bytes) : Except String ℕ :=
  if data.length < 4 then .error s!"conflux switch payload {data.length}, want 4"
  else .ok (natOfBytes (slice data 0 4))

namespace ConfluxSet

variable (s : ConfluxSet)

def setLeg (l : Leg) (leg : ConfluxLeg) : ConfluxSet :=
  { s with legs := Function.update s.legs l leg }

/-- The first section of `handleLinked`. -/
def gotLinked (id : UInt32) (l : Leg) : Except String ConfluxSet :=
  if s.closed then .error "conflux set closed"
  else if (s.legs l).gotLinked then .error s!"duplicate LINKED on circuit {id}"
  else .ok (s.setLeg l { s.legs l with gotLinked := true })

/-- The end of `handleLinked`, once the acknowledgement is sent. -/
def ackSent (l : Leg) : ConfluxSet :=
  s.setLeg l { s.legs l with ackSent := true, linkedCh := true }

/-- `uniqueRecvLeaderLocked`. -/
def uniqueRecvLeader : Option Leg :=
  let a := (s.legs .primary).lastRecv
  let b := (s.legs .secondary).lastRecv
  if a = b then none else if a > b then some .primary else some .secondary

/-- `handleSwitch`, once the relative sequence number is decoded. -/
def handleSwitch (l : Leg) (rel : ℕ) : Except String ConfluxSet :=
  if s.closed || !s.linked then .error "SWITCH before LINK complete"
  else if s.uniqueRecvLeader = some l then .error "SWITCH from current receive leg"
  else
    let next := (s.legs l).lastRecv + rel
    if next < s.lastRecv then .error "SWITCH does not advance seq"
    else if next > s.lastRecv + confluxOOOLimit + 1 then .error "SWITCH gap too large"
    else .ok (s.setLeg l { s.legs l with lastRecv := next })

/-- The loop of `reorder` over the buffer: the cells that follow `lastRecv` without a gap. -/
def drain : ℕ → ConfluxSet → ConfluxSet × List RelayCell
  | 0, s => (s, [])
  | fuel + 1, s =>
    match s.ooo.lookup (s.lastRecv + 1) with
    | none => (s, [])
    | some next =>
      let (s', rest) := drain fuel
        { s with
          ooo := s.ooo.filter (·.1 ≠ s.lastRecv + 1)
          lastRecv := s.lastRecv + 1 }
      (s', next :: rest)

/-- `reorder` up to the delivery: the set, and the cells now due for the owner.  The count
of the leg has advanced even when the cell is refused. -/
def reorder (s : ConfluxSet) (l : Leg) (rc : RelayCell) : ConfluxSet × Except String (List RelayCell) :=
  if s.closed then (s, .error "conflux set closed")
  else
    let seq := (s.legs l).lastRecv + 1
    let s := s.setLeg l { s.legs l with lastRecv := seq }
    if seq ≤ s.lastRecv then (s, .error s!"conflux duplicate or old seq {seq}")
    else if seq = s.lastRecv + 1 then
      -- every turn of the loop takes an entry out of the buffer
      let (s, rest) := drain s.ooo.length { s with lastRecv := seq }
      (s, .ok (rc :: rest))
    else if s.ooo.length ≥ confluxOOOLimit then
      (s, .error s!"conflux OOO queue exceeded {confluxOOOLimit}")
    else if seq > s.lastRecv + confluxOOOLimit + 1 then
      (s, .error "conflux seq gap too large")
    else if (s.ooo.lookup seq).isSome then
      (s, .error s!"conflux OOO slot {seq} already occupied")
    else ({ s with ooo := (seq, rc) :: s.ooo }, .ok [])

/-- `onLegClosed`: the legs the caller has to close, unless another goroutine does it. -/
def onLegClosed (s : ConfluxSet) (l : Leg) : ConfluxSet × List Leg :=
  if s.closed then (s, [])
  else ({ s with closed := true, linked := false }, [l.other])

def teardown (s : ConfluxSet) : ConfluxSet × List Leg :=
  ({ s with closed := true, linked := false }, [.primary, .secondary])

end ConfluxSet

end GoTor.Circuit

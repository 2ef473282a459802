import GoTor.Lib.Table
import GoTor.Lib.Text
import GoTor.Relay.Create

/-!
# The hidden-service tables of a relay

A relay may be the introduction point or the rendezvous point of a circuit.  Which circuit is
what is kept in two maps of the forwarding handler and in fields of the circuits: `introByAuth`,
`rendByCookie`, and for a pair that has met `joinedCirc`.  The handlers of ESTABLISH_INTRO,
ESTABLISH_RENDEZVOUS and RENDEZVOUS1, the closing of a circuit and the reaping of old cookies
all work on them.

A circuit is a pointer into the heap; its ID names it only while it is in the circuit table.
-/

namespace GoTor.Cell

def relayTruncate : UInt8 := 8
def relayEstablishIntro : UInt8 := 32
def relayEstablishRendezvous : UInt8 := 33
def relayRendezvous1 : UInt8 := 36
def relayRendezvous2 : UInt8 := 37
def relayIntroEstablished : UInt8 := 38
def relayRendezvousEstablished : UInt8 := 39

def destroyReasonTimeout : UInt8 := 8
def destroyReasonDestroyed : UInt8 := 9

end GoTor.Cell

namespace GoTor.Relay

open GoTor.Lib GoTor.Cell

def rendCookieLen : ℕ := 20
def ed25519AuthKeyLen : ℕ := 32
def maxUnjoinedRend : ℕ := 128

/-- `unjoinedRendTTL`, in seconds. -/
def unjoinedRendTTL : ℤ := 10 * 60

abbrev CircPtr := ℕ
abbrev ConnPtr := ℕ

/-- `ServerCircuit`, as far as the hidden-service handlers read it. -/
structure HsCircuit where
  circuitID : UInt32 := 0
  circNonce : Bytes := []
  didExtend : Bool := false
  introAuth : Bytes := []
  rendCookie : Bytes := []
  /-- `joinedCirc` and `joinedConn`, which are set together. -/
  joined : Option (CircPtr × ConnPtr) := none
  deriving DecidableEq

structure HsRoleSlot where
  circ : CircPtr
  conn : ConnPtr
  created : ℤ
  deriving DecidableEq

/-- What the relay writes to its clients. -/
inductive HsOut
  | destroy (conn : ConnPtr) (circID : UInt32) (reason : UInt8)
  /-- `sendRelayToClient`: a relay cell of the relay's own on the circuit. -/
  | relay (circ : CircPtr) (conn : ConnPtr) (streamID : UInt16) (cmd : UInt8) (data : Bytes)
  deriving DecidableEq

/-- The tables, and what has been written.  `fresh` is the next unused pointer; `established`
lists the circuits whose ESTABLISH_RENDEZVOUS was accepted and `consumed` the pairs
(RENDEZVOUS1's circuit, waiting circuit) that were joined. -/
structure HsState where
  heap : CircPtr → HsCircuit := fun _ => {}
  fresh : CircPtr := 0
  circuits : Table UInt32 CircPtr := .empty
  /-- The circuit IDs with an entry in `extended`. -/
  extended : Table UInt32 Unit := .empty
  introByAuth : Table Bytes HsRoleSlot := .empty
  rendByCookie : Table Bytes HsRoleSlot := .empty
  out : List HsOut := []
  established : List CircPtr := []
  consumed : List (CircPtr × CircPtr) := []

/-- What the handler of a cell finds outside: the time, and the error of its write, if any. -/
structure HsEnv where
  now : ℤ
  write : Option String
  deriving DecidableEq

namespace HsState

variable (s : HsState)

def modify (p : CircPtr) (f : HsCircuit → HsCircuit) : HsState :=
  { s with heap := Function.update s.heap p (f (s.heap p)) }

def emit (o : HsOut) : HsState := { s with out := s.out ++ [o] }

/-! ### Closing a circuit -/

/-- The first section of `forgetHS`. -/
def forgetSlots (p : CircPtr) : HsState :=
  let circ := s.heap p
  { s with
    introByAuth :=
      if circ.introAuth.length = ed25519AuthKeyLen
      then s.introByAuth.erase (hexEncode circ.introAuth) else s.introByAuth
    rendByCookie :=
      if circ.rendCookie.length = rendCookieLen
      then s.rendByCookie.erase (hexEncode circ.rendCookie) else s.rendByCookie }

/-- The sections of `forgetHS` that take a pair apart: the peer is left to be closed. -/
def unjoin (p : CircPtr) : HsState × Option CircPtr :=
  match (s.heap p).joined with
  | none => (s, none)
  | some (peer, peerConn) =>
    let s := s.modify p fun c => { c with joined := none }
    let s := s.modify peer fun c => { c with joined := none }
    (s.emit (.destroy peerConn (s.heap peer).circuitID destroyReasonDestroyed), some peer)

/-- `HandleDestroy`, without the cell to the next hop. -/
def handleDestroy (circuitID : UInt32) : HsState :=
  { s with extended := s.extended.erase circuitID }

/-- `CloseCircuit` and `forgetHS`, which call each other.  Every call that finds its circuit takes
an entry out of the table, so its size bounds the depth. -/
def closeWithin : ℕ → HsState → UInt32 → HsState
  | 0, s, _ => s
  | fuel + 1, s, circuitID =>
    match s.circuits.get circuitID with
    | none => s.handleDestroy circuitID
    | some p =>
      let s := { s with circuits := s.circuits.erase circuitID }
      match (s.forgetSlots p).unjoin p with
      | (s, none) => s.handleDestroy circuitID
      | (s, some peer) => (closeWithin fuel s (s.heap peer).circuitID).handleDestroy circuitID

def closeCircuit (circuitID : UInt32) : HsState := closeWithin (s.circuits.size + 1) s circuitID

/-- `closeHSCircuit`; the second component is the error it returns. -/
def closeHSCircuit (p : CircPtr) (conn : ConnPtr) (reason : String) (dest : UInt8) : HsState × Option String :=
  let circuitID := (s.heap p).circuitID
  ((s.emit (.destroy conn circuitID dest)).closeCircuit circuitID, some reason)

def destroyHSCircuit (p : CircPtr) (conn : ConnPtr) (reason : String) : HsState × Option String :=
  s.closeHSCircuit p conn reason destroyReasonProtocol

/-! ### The handlers -/

/-- `sendRelayToClient`: the cell is out unless the write fails. -/
def sendRelayToClient (env : HsEnv) (p : CircPtr) (conn : ConnPtr) (streamID : UInt16)
    (cmd : UInt8) (data : Bytes) : HsState × Option String :=
  match env.write with
  | some e => (s, some e)
  | none => (s.emit (.relay p conn streamID cmd data), none)

/-- `now.Sub(slot.created) >= unjoinedRendTTL`. -/
def expired (now : ℤ) (slot : HsRoleSlot) : Bool := now - slot.created ≥ unjoinedRendTTL

def reapExpiredRend (now : ℤ) : HsState :=
  let dead := (s.rendByCookie.entries.map Prod.snd).filter (expired now)
  let s := { s with rendByCookie := s.rendByCookie.keep fun _ slot => !expired now slot }
  dead.foldl (fun s slot => (s.closeHSCircuit slot.circ slot.conn "unjoined rendezvous expired"
    destroyReasonTimeout).1) s

/-- `registerRend`; a refused cookie leaves the circuit's field empty, as it was. -/
def registerRend (p : CircPtr) (conn : ConnPtr) (cookie : Bytes) (now : ℤ) : Except String HsState :=
  let circ := s.heap p
  let key := hexEncode cookie
  if cookie.length ≠ rendCookieLen then .error "invalid rendezvous cookie"
  else if circ.introAuth ≠ [] then .error "circuit already introduction"
  else if circ.rendCookie ≠ [] then .error "rendezvous already established"
  else if (s.rendByCookie.get key).any fun existing =>
      (s.heap existing.circ).circuitID ≠ circ.circuitID then
    .error "rendezvous cookie already in use"
  else if s.rendByCookie.size ≥ maxUnjoinedRend then .error "too many unjoined rendezvous circuits"
  else .ok { s.modify p fun c => { c with rendCookie := cookie } with
    rendByCookie := s.rendByCookie.set key ⟨p, conn, now⟩
    established := s.established ++ [p] }

def handleEstablishRendezvous (env : HsEnv) (p : CircPtr) (conn : ConnPtr) (payload : Bytes) :
    HsState × Option String :=
  if (s.heap p).didExtend then
    s.destroyHSCircuit p conn "ESTABLISH_RENDEZVOUS on extended circuit"
  else
    let s := s.reapExpiredRend env.now
    if payload.length < rendCookieLen then
      s.destroyHSCircuit p conn s!"rendezvous cookie length {payload.length}"
    else
      match s.registerRend p conn (payload.take rendCookieLen) env.now with
      | .error e => s.destroyHSCircuit p conn e
      | .ok s => s.sendRelayToClient env p conn 0 relayRendezvousEstablished []

def restoreRend (key : Bytes) (slot : HsRoleSlot) : HsState :=
  if s.rendByCookie.get key = none
  then { s with rendByCookie := s.rendByCookie.set key slot } else s

def joinHSCircuits (a : CircPtr) (aConn : ConnPtr) (b : CircPtr) (bConn : ConnPtr) : HsState :=
  let s := s.modify a fun c => { c with joined := some (b, bConn) }
  let s := s.modify b fun c => { c with joined := some (a, aConn) }
  { s with consumed := s.consumed ++ [(a, b)] }

def occupied (p : CircPtr) : Bool :=
  let circ := s.heap p
  circ.joined.isSome || !circ.introAuth.isEmpty || !circ.rendCookie.isEmpty

def handleRendezvous1 (env : HsEnv) (p : CircPtr) (conn : ConnPtr) (payload : Bytes) : HsState × Option String :=
  if (s.heap p).didExtend then s.destroyHSCircuit p conn "RENDEZVOUS1 on extended circuit"
  else
    let s := s.reapExpiredRend env.now
    if payload.length < rendCookieLen then
      s.destroyHSCircuit p conn "RENDEZVOUS1 cookie too short"
    else
      let key := hexEncode (payload.take rendCookieLen)
      match s.rendByCookie.get key with
      | none => s.destroyHSCircuit p conn "RENDEZVOUS1 cookie not recognized"
      | some slot =>
        let s := { s with rendByCookie := s.rendByCookie.erase key }
        if (s.heap slot.circ).circuitID = (s.heap p).circuitID then
          s.destroyHSCircuit p conn "RENDEZVOUS1 on rendezvous circuit"
        else if s.occupied p then
          (s.restoreRend key slot).destroyHSCircuit p conn "RENDEZVOUS1 on occupied circuit"
        else
          match s.sendRelayToClient env slot.circ slot.conn 0 relayRendezvous2 (payload.drop rendCookieLen) with
          | (s, some _) =>
            (s.restoreRend key slot).destroyHSCircuit p conn "RENDEZVOUS2 send failed"
          | (s, none) => (s.joinHSCircuits p conn slot.circ slot.conn, none)

def registerIntro (p : CircPtr) (conn : ConnPtr) (auth : Bytes) (now : ℤ) : Except String HsState :=
  let circ := s.heap p
  let key := hexEncode auth
  if auth.length ≠ ed25519AuthKeyLen then .error "invalid intro auth"
  else if circ.rendCookie ≠ [] then .error "circuit already rendezvous"
  else if (s.introByAuth.get key).any fun existing =>
      (s.heap existing.circ).circuitID ≠ circ.circuitID then
    .error "intro auth already in use"
  else if circ.introAuth ≠ [] then .error "intro already established"
  else .ok { s.modify p fun c => { c with introAuth := auth } with
    introByAuth := s.introByAuth.set key ⟨p, conn, now⟩ }

/-- `handleEstablishIntro`; `verify` is `VerifyEstablishIntroPayload`. -/
def handleEstablishIntro (verify : Bytes → Bytes → Option String) (env : HsEnv) (p : CircPtr)
    (conn : ConnPtr) (payload : Bytes) : HsState × Option String :=
  let circ := s.heap p
  if circ.didExtend then s.destroyHSCircuit p conn "ESTABLISH_INTRO on extended circuit"
  else if circ.introAuth ≠ [] then s.destroyHSCircuit p conn "intro already established"
  else if circ.circNonce.length ≠ 20 then s.destroyHSCircuit p conn "missing rend_circ_nonce"
  else
    match verify payload circ.circNonce with
    | some e => s.destroyHSCircuit p conn e
    | none =>
      if payload.length < 35 then s.destroyHSCircuit p conn "ESTABLISH_INTRO too short"
      else
        match s.registerIntro p conn (slice payload 3 35) env.now with
        | .error e => s.destroyHSCircuit p conn e
        | .ok s => s.sendRelayToClient env p conn 0 relayIntroEstablished []

def rejectHSControlStream (p : CircPtr) (conn : ConnPtr) (cmd : String) : HsState × Option String :=
  s.destroyHSCircuit p conn (cmd ++ " stream_id != 0")

/-- The end of `handleLocalRelayCell`, for a recognised cell: a joined circuit passes it on, and
of the other commands only those of the rendezvous protocol touch the tables. -/
def handleRecognized (verify : Bytes → Bytes → Option String) (env : HsEnv) (p : CircPtr)
    (conn : ConnPtr) (streamID : UInt16) (cmd : UInt8) (data : Bytes) : HsState × Option String :=
  match (s.heap p).joined with
  | some (peer, peerConn) => s.sendRelayToClient env peer peerConn streamID cmd data
  | none =>
    if cmd = relayEstablishIntro then
      if streamID ≠ 0 then s.rejectHSControlStream p conn "ESTABLISH_INTRO"
      else s.handleEstablishIntro verify env p conn data
    else if cmd = relayEstablishRendezvous then
      if streamID ≠ 0 then s.rejectHSControlStream p conn "ESTABLISH_RENDEZVOUS"
      else s.handleEstablishRendezvous env p conn data
    else if cmd = relayRendezvous1 then
      if streamID ≠ 0 then s.rejectHSControlStream p conn "RENDEZVOUS1"
      else s.handleRendezvous1 env p conn data
    else if cmd = relayTruncate then (s.handleDestroy (s.heap p).circuitID, none)
    else (s, none)

end HsState

/-! ### Runs -/

/-- What happens at the relay, one handler after the other. -/
inductive HsEvent
  | create2 (circuitID : UInt32) (circNonce : Bytes)
  | relay (env : HsEnv) (circuitID : UInt32) (conn : ConnPtr) (streamID : UInt16) (cmd : UInt8) (data : Bytes)
  | extended (circuitID : UInt32)
  /-- `CloseCircuit`, for whatever reason it is called. -/
  | close (circuitID : UInt32)
  | reap (now : ℤ)
  deriving DecidableEq

namespace HsState

/-- `handleCreate2Auth`, once the handshake is done: an ID in use is refused. -/
def create2 (s : HsState) (circuitID : UInt32) (circNonce : Bytes) : HsState :=
  match s.circuits.get circuitID with
  | some _ => s
  | none =>
    { s with
      heap := Function.update s.heap s.fresh { circuitID, circNonce }
      fresh := s.fresh + 1
      circuits := s.circuits.set circuitID s.fresh }

/-- `registerExtended`, and the mark on the circuit. -/
def extend (s : HsState) (circuitID : UInt32) : HsState :=
  match s.extended.get circuitID with
  | some _ => s
  | none =>
    let s := { s with extended := s.extended.set circuitID () }
    match s.circuits.get circuitID with
    | none => s
    | some p => s.modify p fun c => { c with didExtend := true }

variable (verify : Bytes → Bytes → Option String)

/-- A recognised relay cell: on an extended circuit the commands of the rendezvous protocol are
ignored, whatever was joined. -/
def relayCell (s : HsState) (env : HsEnv) (circuitID : UInt32) (conn : ConnPtr)
    (streamID : UInt16) (cmd : UInt8) (data : Bytes) : HsState :=
  match s.circuits.get circuitID with
  | none => s.emit (.destroy conn circuitID destroyReasonProtocol)
  | some p =>
    match s.extended.get circuitID with
    | some _ => if cmd = relayTruncate then s.handleDestroy circuitID else s
    | none => (s.handleRecognized verify env p conn streamID cmd data).1

def step (s : HsState) : HsEvent → HsState
  | .create2 circuitID circNonce => s.create2 circuitID circNonce
  | .relay env circuitID conn streamID cmd data =>
    relayCell verify s env circuitID conn streamID cmd data
  | .extended circuitID => s.extend circuitID
  | .close circuitID => s.closeCircuit circuitID
  | .reap now => s.reapExpiredRend now

def after (events : List HsEvent) : HsState :=
  events.foldl (step verify) {}

end HsState

end GoTor.Relay

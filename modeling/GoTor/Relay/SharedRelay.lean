import GoTor.Relay.JoinedRelay

/-!
# One relay, many connections

The circuits of all OR connections are in one table, and what a circuit is connected with is kept
by pointer and connection: the slots of introduction and rendezvous points, the other circuit of a
pair, the connection an extension leads back to, the circuits that exit streams write to.  Here
the cells of every connection, with the ciphers, run over these tables.
-/

namespace GoTor.Cell

def relayIntroduce1 : UInt8 := 34
def relayIntroduce2 : UInt8 := 35
def relayIntroduceAck : UInt8 := 40

end GoTor.Cell

namespace GoTor.Relay

open GoTor.Lib GoTor.Cell GoTor.Crypto

def maxIntroduce1Len : ℕ := 490
def introAckSuccess : UInt16 := 0
def introAckNotRecognized : UInt16 := 1
def introAckBadFormat : UInt16 := 2
def introAckCantRelay : UInt16 := 3
def introduce1LegacyKeyLen : ℕ := 20
def introduce1AuthKeyTypeV3 : UInt8 := 0x02

/-- The loop over the extensions: whether they end within the payload. -/
def skipExtensions : ℕ → ℕ → Bytes → Bool
  | 0, _, _ => true
  | n + 1, off, p =>
    if off + 2 > p.length then false
    else
      let off := off + 2 + (p.getD (off + 1) 0).toNat
      if off > p.length then false else skipExtensions n off p

def parseIntroduce1AuthKey (p : Bytes) : Option Bytes :=
  let off := introduce1LegacyKeyLen + 3
  let alen := (uint16At p (introduce1LegacyKeyLen + 1)).toNat
  if p.length < off + ed25519AuthKeyLen + 1 || p.length > maxIntroduce1Len then none
  else if p.take introduce1LegacyKeyLen ≠ zeros introduce1LegacyKeyLen then none
  else if p.getD introduce1LegacyKeyLen 0 ≠ introduce1AuthKeyTypeV3 then none
  else if alen ≠ ed25519AuthKeyLen || off + alen ≥ p.length then none
  else
    let nExt := (p.getD (off + alen) 0).toNat
    if skipExtensions nExt (off + alen + 1) p then some (slice p off (off + alen)) else none

def introAckPayload (status : UInt16) : Bytes := putUint16 status ++ [0]

structure CellEnv where
  hs : HsEnv
  /-- A stream or a SENDME cell is refused, and the circuit closed for this reason. -/
  refused : Option UInt8 := none
  /-- `!slot.allowIntro2`. -/
  limited : Bool := false
  /-- The error of writing an answer after a cell to another circuit. -/
  answer : Option String := none
  deriving DecidableEq

/-- The relay's state.  `owner` and `sent` record on which connection a circuit was created, and
the connection and circuit of every RELAY cell written to a client. -/
structure SharedRelay where
  fwd : ForwardState
  /-- `ClientConn` of the extension of a client circuit ID. -/
  extConn : UInt32 → ConnPtr := fun _ => 0
  /-- What stream handlers and pumps have to write to. -/
  writers : List (CircPtr × ConnPtr) := []
  owner : CircPtr → ConnPtr := fun _ => 0
  sent : List (ConnPtr × CircPtr) := []

inductive LinkCell
  /-- CREATE2 whose handshake succeeds with these keys. -/
  | create2 (circuitID : UInt32) (circNonce : Bytes) (crypto : CircuitCrypto)
  | relay (env : CellEnv) (circuitID : UInt32) (cmd : LinkCmd) (payload : Bytes)
  | destroy (circuitID : UInt32)

inductive SharedStep
  | cell (c : ConnPtr) (m : LinkCell)
  /-- `HandleExtend2`, called for an EXTEND2 cell on connection `c`, registers the next hop. -/
  | extended (c : ConnPtr) (circuitID nextHopCircuitID : UInt32)
  /-- A relay cell from the next hop of a circuit. -/
  | backward (circuitID : UInt32) (cmd : LinkCmd) (payload : Bytes)
  | nextHopDestroy (circuitID : UInt32)
  /-- A cell of an exit stream. -/
  | exitWrites (i : ℕ) (streamID : UInt16) (cmd : UInt8) (data : Bytes)

namespace SharedRelay

variable (P : Primitives) (verify : Bytes → Bytes → Option String) (s : SharedRelay)

def setHs (hs : HsState) : SharedRelay := { s with fwd := { s.fwd with hs } }

def setCrypto (p : CircPtr) (cc : CircuitCrypto) : SharedRelay :=
  { s with fwd := s.fwd.setCrypto p cc }

/-- `sendRelayToClient`; the second component is the error it returns. -/
def sendRelayToClient (write : Option String) (p : CircPtr) (conn : ConnPtr) (streamID : UInt16)
    (cmd : UInt8) (data : Bytes) : SharedRelay × Option String :=
  match (newRelayCell streamID cmd data).bind ((s.fwd.crypto p).originateRelayTag P) with
  | .error e => (s, some e)
  | .ok (cc, _, _) =>
    let s := s.setCrypto p cc
    match write with
    | some e => (s, some e)
    | none => ({ s with sent := s.sent ++ [(conn, p)] }, none)

/-- A handler of the tables has run: its cells are encrypted and written. -/
def writeOut (s : SharedRelay) : HsOut → SharedRelay
  | .destroy _ _ _ => s
  | .relay p conn streamID cmd data => (s.sendRelayToClient P none p conn streamID cmd data).1

def runHs (hs : HsState) : SharedRelay :=
  (hs.out.drop s.fwd.hs.out.length).foldl (writeOut P) (s.setHs hs)

/-- `CloseCircuit`, after a DESTROY cell to the client. -/
def closeFor (conn : ConnPtr) (circuitID : UInt32) (reason : UInt8) : SharedRelay :=
  s.setHs ((s.fwd.hs.emit (.destroy conn circuitID reason)).closeCircuit circuitID)

variable (env : CellEnv)

def handleIntroduce1 (p : CircPtr) (conn : ConnPtr) (payload : Bytes) : SharedRelay :=
  let ack (s : SharedRelay) (status : UInt16) : SharedRelay :=
    (s.sendRelayToClient P env.answer p conn 0 relayIntroduceAck (introAckPayload status)).1
  if (s.fwd.hs.heap p).didExtend then
    s.setHs (s.fwd.hs.destroyHSCircuit p conn "INTRODUCE1 on extended circuit").1
  else
    match parseIntroduce1AuthKey payload with
    | none => ack s introAckBadFormat
    | some auth =>
      match s.fwd.hs.introByAuth.get (hexEncode auth) with
      | none => ack s introAckNotRecognized
      | some slot =>
        if env.limited then ack s introAckNotRecognized
        else
          match s.sendRelayToClient P env.hs.write slot.circ slot.conn 0 relayIntroduce2 payload with
          | (s, some _) => ack s introAckCantRelay
          | (s, none) => ack s introAckSuccess

variable (circuitID : UInt32)

/-- The end of `handleLocalRelayCell`, for a recognised cell of a circuit that is joined to none.
BEGIN, BEGIN_DIR and RESOLVE leave the circuit and the connection with the exit. -/
def handleLocal (p : CircPtr) (conn : ConnPtr) (rc : RelayCell) : SharedRelay :=
  if rc.command = relayBegin ∨ rc.command = relayBeginDir ∨ rc.command = relayResolve then
    match env.refused with
    | some reason => s.closeFor conn circuitID reason
    | none => { s with writers := s.writers ++ [(p, conn)] }
  else if rc.command = relaySendme then
    match env.refused with
    | some reason => s.closeFor conn circuitID reason
    | none => s
  else if rc.command = relayIntroduce1 then
    if rc.streamID ≠ 0 then
      s.setHs (s.fwd.hs.rejectHSControlStream p conn "INTRODUCE1").1
    else s.handleIntroduce1 P env p conn rc.data
  else s.runHs P (s.fwd.hs.handleRecognized verify env.hs p conn rc.streamID rc.command rc.data).1

def handleLocalRelayCell (p : CircPtr) (cmd : LinkCmd) (payload : Bytes) (conn : ConnPtr) : SharedRelay :=
  let (cc, result) := (s.fwd.crypto p).decryptInbound P payload (cgoAD cmd)
  let s := s.setCrypto p cc
  match result with
  | .error .digestMismatch => s.closeFor conn circuitID destroyReasonProtocol
  | .error _ => s
  | .ok (plain, _) =>
    match cc.decodeRelay plain with
    | .error _ => s
    | .ok rc =>
      match (s.fwd.hs.heap p).joined with
      | some (peer, peerConn) =>
        (s.sendRelayToClient P env.hs.write peer peerConn rc.streamID rc.command rc.data).1
      | none => s.handleLocal P verify env circuitID p conn rc

/-- `forwardExtendedFromClient`. -/
def forwardExtended (p : CircPtr) (cmd : LinkCmd) (payload : Bytes) (conn : ConnPtr) : SharedRelay :=
  let s' := { s with fwd := (s.fwd.forwardExtendedFromClient P circuitID p cmd payload).state }
  match (s.fwd.crypto p).peelInbound P payload (cgoAD cmd), env.refused with
  | .ok (cc, peeled, some _), some reason =>
    match cc.decodeRelay peeled with
    | .ok rc => if rc.command = relaySendme then s'.closeFor conn circuitID reason else s'
    | .error _ => s'
  | _, _ => s'

def handleRelay (cmd : LinkCmd) (payload : Bytes) (conn : ConnPtr) : SharedRelay :=
  match s.fwd.hs.circuits.get circuitID with
  | none => s.setHs (s.fwd.hs.emit (.destroy conn circuitID destroyReasonProtocol))
  | some p =>
    match s.fwd.hs.extended.get circuitID with
    | some _ => s.forwardExtended P env circuitID p cmd payload conn
    | none => s.handleLocalRelayCell P verify env circuitID p cmd payload conn

def handleIncomingCell (conn : ConnPtr) : LinkCell → SharedRelay
  | .create2 circuitID circNonce crypto =>
    match s.fwd.hs.circuits.get circuitID with
    | some _ => s.setHs (s.fwd.hs.emit (.destroy conn circuitID destroyReasonProtocol))
    | none =>
      { (s.setCrypto s.fwd.hs.fresh crypto).setHs (s.fwd.hs.create2 circuitID circNonce) with
        owner := Function.update s.owner s.fwd.hs.fresh conn }
  | .relay env circuitID cmd payload => s.handleRelay P verify env circuitID cmd payload conn
  | .destroy circuitID => s.setHs (s.fwd.hs.closeCircuit circuitID)

/-- `forwardCellToClient`, for a relay cell. -/
def forwardCellToClient (circuitID : UInt32) (cmd : LinkCmd) (payload : Bytes) : SharedRelay :=
  match s.fwd.hs.circuits.get circuitID with
  | none => s
  | some p =>
    match (s.fwd.crypto p).wrapOutbound P payload (cgoAD cmd) with
    | .error _ => s
    | .ok (cc, _) =>
      { s.setCrypto p cc with sent := s.sent ++ [(s.extConn circuitID, p)] }

def step (s : SharedRelay) : SharedStep → Option SharedRelay
  | .cell c m => some (s.handleIncomingCell P verify c m)
  | .extended c circuitID nextHopCircuitID =>
    -- `registerExtendedCircuit` looks for the circuit, `registerExtended` for an extension
    match s.fwd.hs.circuits.get circuitID, s.fwd.hs.extended.get circuitID with
    | some _, none => some { s with
        fwd := { s.fwd with
          hs := s.fwd.hs.extend circuitID
          nextHop := Function.update s.fwd.nextHop circuitID { nextHopCircuitID } }
        extConn := Function.update s.extConn circuitID c }
    | _, _ => none
  | .backward circuitID cmd payload =>
    match s.fwd.hs.extended.get circuitID with
    | some _ => some (s.forwardCellToClient P circuitID cmd payload)
    | none => none
  | .nextHopDestroy circuitID => some (s.setHs (s.fwd.hs.closeCircuit circuitID))
  | .exitWrites i streamID cmd data =>
    match s.writers[i]? with
    | some (p, conn) => some (s.sendRelayToClient P none p conn streamID cmd data).1
    | none => none

end SharedRelay

end GoTor.Relay

import GoTor.Crypto.Tor1

/-!
# Relay cells

The message inside a RELAY or RELAY_EARLY cell and its two encodings: the v0 format of tor1
hops and the v1 format of CGO hops.  Both fill a whole payload of 509 bytes; what follows the
message is zero until the sender overwrites it with random padding.
-/

namespace GoTor.Cell

open GoTor.Lib GoTor.Crypto

/-! ### Commands -/

def relayBegin : UInt8 := 1
def relayData : UInt8 := 2
def relayEnd : UInt8 := 3
def relayConnected : UInt8 := 4
def relaySendme : UInt8 := 5
def relayExtend : UInt8 := 6
def relayResolve : UInt8 := 11
def relayResolved : UInt8 := 12
def relayBeginDir : UInt8 := 13
def relayExtend2 : UInt8 := 14
def relayExtended2 : UInt8 := 15
def relayConfluxLink : UInt8 := 19
def relayConfluxLinked : UInt8 := 20
def relayConfluxLinkedAck : UInt8 := 21
def relayConfluxSwitch : UInt8 := 22
def relayXon : UInt8 := 43
def relayXoff : UInt8 := 44

/-- `RelayCell`: the payload of a RELAY or RELAY_EARLY cell. -/
structure RelayCell where
  command : UInt8
  recognized : UInt16 := 0
  streamID : UInt16
  digest : Vector UInt8 4 := Vector.replicate 4 0
  length : UInt16 := 0
  data : Bytes
  deriving DecidableEq

def relayCellHeaderLen : ℕ := 11

def safeLenToUint16 (data : Bytes) : Except String UInt16 :=
  if data.length > 65535 then
    .error s!"value out of uint16 range: {data.length} (max: 65535)"
  else .ok (UInt16.ofNat data.length)

def newRelayCell (streamID : UInt16) (cmd : UInt8) (data : Bytes) : Except String RelayCell :=
  let maxDataLen := payloadLen - relayCellHeaderLen
  if data.length > maxDataLen then
    .error s!"relay cell data too large: {data.length} > {maxDataLen}"
  else do
    let length ← (safeLenToUint16 data).mapError (s!"relay cell data too large: {·}")
    return { command := cmd, streamID, length, data }

lemma newRelayCell_eq_ok {i : UInt16} {cmd : UInt8} {data : Bytes} {rc : RelayCell}
    (h : newRelayCell i cmd data = .ok rc) :
    rc.command = cmd ∧ rc.streamID = i ∧ rc.data = data := by
  unfold newRelayCell at h
  dsimp only at h
  split at h
  · cases h
  · obtain ⟨length, -, hret⟩ := bind_eq_ok.1 h
    cases hret
    exact ⟨rfl, rfl, rfl⟩

/-! ### The v0 format -/

/-- `RelayCell.Encode`: the payload, and the cell with its length field set. -/
def RelayCell.encode (rc : RelayCell) : Except String (RelayCell × Bytes) :=
  let maxDataLen := payloadLen - relayCellHeaderLen
  if rc.data.length > maxDataLen then
    .error s!"relay cell data too large: {rc.data.length} > {maxDataLen}"
  else do
    let length ← (safeLenToUint16 rc.data).mapError (s!"relay cell data too large: {·}")
    let header := [rc.command] ++ putUint16 rc.recognized ++ putUint16 rc.streamID ++
      rc.digest.toList ++ putUint16 length
    return ({ rc with length }, overwrite 0 (header ++ rc.data) (zeros payloadLen))

def decodeRelayCell (payload : Bytes) : Except String RelayCell :=
  if payload.length < relayCellHeaderLen then
    .error s!"payload too short for relay cell: {payload.length} < {relayCellHeaderLen}"
  else
    let length := uint16At payload 9
    let maxDataLen := payloadLen - relayCellHeaderLen
    if length.toNat > maxDataLen then
      .error s!"relay cell length exceeds maximum: {length} > {maxDataLen}"
    else if length.toNat > payload.length - relayCellHeaderLen then
      .error s!"relay cell data length exceeds payload: {length} > {payload.length - relayCellHeaderLen}"
    else
      .ok { command := payload.getD 0 0
            recognized := uint16At payload 1
            streamID := uint16At payload 3
            digest := Vector.ofFn fun i => payload.getD (5 + i) 0
            length
            data := slice payload 11 (11 + length.toNat) }

/-! ### The v1 format -/

/-- `RelayCmdExpectsStreamID`: the commands that carry a stream ID in the v1 format. -/
def relayCmdExpectsStreamID (cmd : UInt8) : Bool :=
  cmd ∈ [relayBegin, relayData, relayEnd, relayConnected, relayResolve, relayResolved,
    relayBeginDir, relayXon, relayXoff]

def v1CmdOffset : ℕ := 16
def v1LenOffset : ℕ := 17
def v1StreamIDOffset : ℕ := 19

/-- Where the data of a v1 message starts: after the stream ID, if the command has one. -/
def v1PayloadOffset (cmd : UInt8) : ℕ := if relayCmdExpectsStreamID cmd then 21 else 19

/-- `EncodeRelayCellV1`.  The first 16 bytes stay zero for the CGO tag. -/
def encodeRelayCellV1 (rc : RelayCell) : Except String (RelayCell × Bytes) :=
  let off := v1PayloadOffset rc.command
  if relayCmdExpectsStreamID rc.command && rc.streamID == 0 then
    .error s!"v1 command {rc.command} requires nonzero stream_id"
  else if !relayCmdExpectsStreamID rc.command && rc.streamID != 0 then
    .error s!"v1 command {rc.command} must have stream_id 0"
  else do
    let length ← (safeLenToUint16 rc.data).mapError (s!"v1 data too large: {·}")
    if off + length.toNat > payloadLen then
      .error s!"v1 data {length} does not fit after header {off}"
    let streamID := if relayCmdExpectsStreamID rc.command then putUint16 rc.streamID else []
    return ({ rc with length },
      overwrite v1CmdOffset ([rc.command] ++ putUint16 length ++ streamID ++ rc.data) (zeros payloadLen))

def decodeRelayCellV1 (payload : Bytes) : Except String RelayCell :=
  if payload.length < payloadLen then
    .error s!"v1 payload length {payload.length}, want {payloadLen}"
  else
    let command := payload.getD v1CmdOffset 0
    let length := uint16At payload v1LenOffset
    let off := v1PayloadOffset command
    if length.toNat > payload.length - off then
      .error s!"v1 length {length} exceeds remaining {payload.length - off}"
    else
      .ok { command
            streamID :=
              if relayCmdExpectsStreamID command then uint16At payload v1StreamIDOffset else 0
            length
            data := slice payload off (off + length.toNat) }

/-- `V1MessageEnd`: where the message ends, for the random padding behind it. -/
def v1MessageEnd (payload : Bytes) : ℕ :=
  if payload.length < 19 then payload.length
  else
    let stop := v1PayloadOffset (payload.getD v1CmdOffset 0) + (uint16At payload v1LenOffset).toNat
    min stop payload.length

end GoTor.Cell

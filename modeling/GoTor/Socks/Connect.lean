import GoTor.Lib.Thread
import GoTor.Onion.Address
import GoTor.Pool.CircuitPool

/-!
# A SOCKS5 connection

What the server does with the bytes a client sends: the handshake with its optional user name
and password, the request, and for CONNECT the address map, the split into onion services and
exits, and the stream on a circuit of the pool.  A call that uses shared state or the network
is an action; the text of an error is only logged and left out.
-/

namespace GoTor.Socks

open GoTor.Lib GoTor.Onion GoTor.Stream

/-! ### Reading the request -/

def socks5Version : UInt8 := 5
def authNone : UInt8 := 0
def authPassword : UInt8 := 2
def addrIPv4 : UInt8 := 1
def addrDomain : UInt8 := 3
def addrIPv6 : UInt8 := 4
def cmdConnect : UInt8 := 1
def cmdResolve : UInt8 := 0xF0
def cmdResolvePTR : UInt8 := 0xF1

def replySuccess : UInt8 := 0
def replyGeneralFailure : UInt8 := 1
def replyConnectionNotAllowed : UInt8 := 2
def replyNetworkUnreachable : UInt8 := 3
def replyHostUnreachable : UInt8 := 4
def replyCommandNotSupported : UInt8 := 7
def replyAddressNotSupported : UInt8 := 8

/-- Functions of the standard library the server calls on texts and addresses. -/
structure SocksLib extends IsolationLib where
  sha3 : Bytes → Vector UInt8 32
  toLower : Bytes → Bytes
  /-- `net.ParseIP`. -/
  parseIP : Bytes → Option Bytes
  /-- `net.IP.String`. -/
  ipString : Bytes → Bytes
  isInternalIP : Bytes → Bool
  /-- `strconv.Atoi`. -/
  atoi : Bytes → Option Int

structure Config where
  enableDNSResolution : Bool := true
  safeSocks : Bool := false
  rejectInternal : Bool := false
  /-- `AddressMap`. -/
  addressMap : Bytes → Option Bytes := fun _ => none

/-- `io.ReadFull` of `n` bytes: what was read and what is left. -/
def readFull (n : ℕ) (input : Bytes) : Option (Bytes × Bytes) :=
  if n ≤ input.length then some (input.take n, input.drop n) else none

/-- `authenticatePassword`: the user name; the password is read and dropped. -/
def authenticatePassword (input : Bytes) : Option (Bytes × Bytes) := do
  let (version, input) ← readFull 1 input
  if version ≠ [1] then none
  else
    let (ulen, input) ← readFull 1 input
    let (username, input) ← readFull (ulen.getD 0 0).toNat input
    let (plen, input) ← readFull 1 input
    let (_, input) ← readFull (plen.getD 0 0).toNat input
    return (username, input)

/-- `handshake`: the user name, and what is left of the input. -/
def handshake (input : Bytes) : Option (Bytes × Bytes) := do
  let (header, input) ← readFull 2 input
  if header.getD 0 0 ≠ socks5Version then none
  else
    let (methods, input) ← readFull (header.getD 1 0).toNat input
    if authPassword ∈ methods then authenticatePassword input
    else if authNone ∈ methods then some ([], input)
    else none

variable (L : SocksLib) (cfg : Config)

/-- The reply to a command that is not served, if it is not. -/
def refusedCommand (cmd : UInt8) : Option UInt8 :=
  if cmd = cmdConnect then none
  else if cmd = cmdResolve ∨ cmd = cmdResolvePTR then
    if cfg.enableDNSResolution then none else some replyCommandNotSupported
  else some replyCommandNotSupported

/-- The address of a request, or the reply that refuses it. -/
def readAddress (addrType : UInt8) (input : Bytes) : Except UInt8 (Bytes × Bytes) :=
  if addrType = addrIPv4 then
    match readFull 4 input with
    | some (ip, input) => .ok (L.ipString ip, input)
    | none => .error replyGeneralFailure
  else if addrType = addrDomain then
    match readFull 1 input with
    | none => .error replyGeneralFailure
    | some (domainLen, input) =>
      match readFull (domainLen.getD 0 0).toNat input with
      | some (domain, input) => .ok (domain, input)
      | none => .error replyGeneralFailure
  else if addrType = addrIPv6 then
    match readFull 16 input with
    | some (ip, input) => .ok (L.ipString ip, input)
    | none => .error replyGeneralFailure
  else .error replyAddressNotSupported

structure RequestInfo where
  cmd : UInt8
  targetAddr : Bytes
  deriving DecidableEq

/-- `readRequest`; a request that ends in its header is not answered. -/
def readRequest (input : Bytes) : Except (Option UInt8) RequestInfo :=
  match readFull 4 input with
  | none => .error none
  | some (header, input) =>
    let cmd := header.getD 1 0
    if header.getD 0 0 ≠ socks5Version then .error (some replyGeneralFailure)
    else
      match refusedCommand cfg cmd with
      | some code => .error (some code)
      | none =>
        match readAddress L (header.getD 3 0) input with
        | .error code => .error (some code)
        | .ok (addr, input) =>
          match readFull 2 input with
          | none => .error (some replyGeneralFailure)
          | some (portBytes, _) =>
            if cmd = cmdConnect then
              .ok { cmd, targetAddr := joinHostPort addr (itoa (uint16At portBytes 0).toNat) }
            else .ok { cmd, targetAddr := addr }

/-! ### The address map -/

/-- `applyAddressMap`; empty when the map has no entry. -/
def applyAddressMap (m : Bytes → Option Bytes) (targetAddr : Bytes) : Bytes :=
  match splitHostPort targetAddr with
  | .error _ => (m (L.toLower targetAddr)).getD []
  | .ok (host, port) =>
    match m (L.toLower host) with
    | none => []
    | some dest =>
      match splitHostPort dest with
      | .ok _ => dest
      | .error _ => joinHostPort dest port

/-- The target after the address map. -/
def mappedTarget (targetAddr : Bytes) : Bytes :=
  let mapped := applyAddressMap L cfg.addressMap targetAddr
  if mapped ≠ [] then mapped else targetAddr

/-- The host of a target, which is the whole target when it does not split. -/
def hostOf (targetAddr : Bytes) : Bytes :=
  match splitHostPort targetAddr with
  | .ok (host, _) => host
  | .error _ => targetAddr

def onionPort (targetAddr : Bytes) : UInt16 :=
  match splitHostPort targetAddr with
  | .error _ => 80
  | .ok (_, portStr) =>
    match L.atoi portStr with
    | some p => if 0 < p ∧ p < 65536 then UInt16.ofNat p.toNat else 80
    | none => 80

/-! ### Actions -/

/-- Circuits are referred to by number. -/
inductive SocksAct
  | reply (code : UInt8)
  | handleResolve (targetAddr : Bytes)
  | handleResolvePTR (targetAddr : Bytes)
  | connectToOnionService (addr : Address)
  /-- `relayOnionServiceData`: RELAY_BEGIN and data on the rendezvous circuit. -/
  | relayOnionServiceData (circ : ℕ) (req : StreamRequest) (host : Bytes) (port : UInt16)
  /-- Whether a pool and a builder for exits are set. -/
  | snapshot
  | validateStreamRequest (req : StreamRequest)
  /-- The critical section of `GetIf`. -/
  | getIf (key : Option IsolationKey) (destIP : Option Bytes) (port : UInt16)
  /-- `buildFunc`. -/
  | build
  | allowsExit (circ : ℕ) (destIP : Option Bytes) (port : UInt16)
  | put (circ : ℕ)
  /-- `circuitForExit`. -/
  | buildForExit (destIP : Option Bytes) (port : UInt16)
  | setIsolationKey (circ : ℕ) (key : IsolationKey)
  | closeCircuit (circ : ℕ)
  | checkCircuitCompatibility (circ : ℕ) (key : IsolationKey)
  | registerCircuit (circ : ℕ) (key : IsolationKey)
  | allocateStreamID (circ : ℕ)
  | createStream (circ : ℕ) (streamID : UInt16) (host : Bytes) (port : UInt16)
  | registerStream (circ : ℕ) (streamID : UInt16)
  /-- `OpenStream`: RELAY_BEGIN with the host to the exit, and its answer. -/
  | openStream (circ : ℕ) (req : StreamRequest) (streamID : UInt16) (host : Bytes) (port : UInt16)
  | relayDataThroughCircuit (circ : ℕ) (streamID : UInt16)
  | unregisterStream (circ : ℕ) (streamID : UInt16)
  | removeStream (circ : ℕ) (streamID : UInt16)
  | releaseStreamID (circ : ℕ) (streamID : UInt16)
  /-- `Rotate` of the pool. -/
  | rotate

@[reducible] def SocksAct.Resp : SocksAct → Type
  | .connectToOnionService _ => Option ℕ
  | .snapshot => Bool × Bool
  | .validateStreamRequest _ => IsolationResult
  | .getIf _ _ _ => Option ℕ
  | .build => Option ℕ
  | .allowsExit _ _ _ => Bool
  | .buildForExit _ _ => Option ℕ
  | .checkCircuitCompatibility _ _ => Bool
  | .allocateStreamID _ => Option UInt16
  | .createStream _ _ _ _ => Bool
  | .openStream _ _ _ _ _ => Bool
  | _ => Unit

abbrev SocksProg := Prog SocksAct SocksAct.Resp

open SocksAct

/-! ### A circuit for the stream -/

/-- `GetIf`: a circuit of the pool, or a new one with the key. -/
def getCircuit (key : Option IsolationKey) (destIP : Option Bytes) (port : UInt16) : SocksProg (Option ℕ) := do
  match ← Prog.lift (getIf key destIP port) with
  | some circ => return some circ
  | none =>
    match ← Prog.lift build with
    | none => return none
    | some circ =>
      match key with
      | none => return some circ
      | some key =>
        Prog.lift (setIsolationKey circ key)
        return some circ

def replaceIfExitRejected (canBuild : Bool) (key : Option IsolationKey) (destIP : Option Bytes)
    (port : UInt16) (circ : ℕ) : SocksProg (Option ℕ) := do
  if ← Prog.lift (allowsExit circ destIP port) then return some circ
  else
    Prog.lift (put circ)
    if !canBuild then return none
    else
      match ← Prog.lift (buildForExit destIP port) with
      | none => return none
      | some built =>
        if ← Prog.lift (allowsExit built destIP port) then
          match key with
          | none => return some built
          | some key =>
            Prog.lift (setIsolationKey built key)
            return some built
        else
          Prog.lift (closeCircuit built)
          return none

/-- Whether the enforcer lets the stream use the circuit, which is then registered. -/
def admitCircuit (key : Option IsolationKey) (circ : ℕ) : SocksProg Bool :=
  match key with
  | none => return true
  | some key => do
    if ← Prog.lift (checkCircuitCompatibility circ key) then
      Prog.lift (registerCircuit circ key)
      return true
    else return false

/-- The stream on its circuit, with the deferred calls that end it. -/
def runStream (req : StreamRequest) (isolated : Bool) (circ : ℕ) (host : Bytes) (port : UInt16) : SocksProg Unit := do
  match ← Prog.lift (allocateStreamID circ) with
  | none => Prog.lift (reply replyGeneralFailure)
  | some streamID =>
    if ← Prog.lift (createStream circ streamID host port) then
      if isolated then Prog.lift (registerStream circ streamID)
      if ← Prog.lift (openStream circ req streamID host port) then
        Prog.lift (reply replySuccess)
        Prog.lift (relayDataThroughCircuit circ streamID)
      else Prog.lift (reply replyHostUnreachable)
      if isolated then Prog.lift (unregisterStream circ streamID)
      Prog.lift (removeStream circ streamID)
    else Prog.lift (reply replyGeneralFailure)
    Prog.lift (releaseStreamID circ streamID)

def connectToExit (req : StreamRequest) (host : Bytes) (destIP : Option Bytes) (port : UInt16) : SocksProg Unit := do
  let (hasPool, canBuild) ← Prog.lift snapshot
  let result ← Prog.lift (validateStreamRequest req)
  if !result.allowed then Prog.lift (reply replyConnectionNotAllowed)
  else if !hasPool then Prog.lift (reply replyGeneralFailure)
  else
    match ← getCircuit result.key destIP port with
    | none => Prog.lift (reply replyGeneralFailure)
    | some circ =>
      match ← replaceIfExitRejected canBuild result.key destIP port circ with
      | none => Prog.lift (reply replyNetworkUnreachable)
      | some circ =>
        if ← admitCircuit result.key circ then
          runStream req result.key.isSome circ host port
          Prog.lift (put circ)
        else
          Prog.lift (put circ)
          Prog.lift (reply replyConnectionNotAllowed)

def connectToOnion (req : StreamRequest) (host : Bytes) : SocksProg Unit :=
  match parseAddress L.sha3 host with
  | none => Prog.lift (reply replyHostUnreachable)
  | some addr => do
    match ← Prog.lift (connectToOnionService addr) with
    | none => Prog.lift (reply replyHostUnreachable)
    | some circ =>
      Prog.lift (reply replySuccess)
      Prog.lift (relayOnionServiceData circ req host (onionPort L req.target))

/-- The host, its IP if it is a literal, and the port of a target that an exit can be asked
for, or the reply that refuses it. -/
def exitTarget (targetAddr : Bytes) : Except UInt8 (Bytes × Option Bytes × UInt16) :=
  match splitHostPort targetAddr with
  | .error _ => .error replyGeneralFailure
  | .ok (host, portStr) =>
    match L.scanPort portStr with
    | none => .error replyGeneralFailure
    | some port =>
      if port < 1 then .error replyGeneralFailure
      else if cfg.safeSocks && (L.parseIP host).isSome then .error replyConnectionNotAllowed
      else if cfg.rejectInternal && (L.parseIP host).any L.isInternalIP then
        .error replyConnectionNotAllowed
      else .ok (host, L.parseIP host, port)

/-- The CONNECT part of `handleConnection`. -/
def handleConnect (username : Bytes) (source : SourceAddr) (targetAddr : Bytes) : SocksProg Unit :=
  let targetAddr := mappedTarget L cfg targetAddr
  let host := hostOf targetAddr
  let req : StreamRequest :=
    { target := targetAddr, sourceAddr := source, socksUsername := username }
  if isOnionAddress host then connectToOnion L req host
  else
    match exitTarget L cfg targetAddr with
    | .error code => Prog.lift (reply code)
    | .ok (host, destIP, port) => connectToExit req host destIP port

/-- `ensureMinCircuits`, when `needed` circuits are missing. -/
def ensureMinCircuits : (needed : ℕ) → SocksProg Unit
  | 0 => return ()
  | needed + 1 => do
    match ← Prog.lift build with
    | none => ensureMinCircuits needed
    | some circ =>
      Prog.lift (put circ)
      ensureMinCircuits needed

/-- `handleConnection`, for a client at `source` that sends `input`. -/
def handleConnection (source : SourceAddr) (input : Bytes) : SocksProg Unit :=
  match handshake input with
  | none => return ()
  | some (username, input) =>
    match readRequest L cfg input with
    | .error none => return ()
    | .error (some code) => Prog.lift (reply code)
    | .ok request =>
      if request.cmd = cmdResolve then Prog.lift (handleResolve request.targetAddr)
      else if request.cmd = cmdResolvePTR then
        Prog.lift (handleResolvePTR request.targetAddr)
      else handleConnect L cfg username source request.targetAddr

end GoTor.Socks

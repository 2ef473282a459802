import GoTor.Lib.Text

/-!
# Stream isolation

The isolation enforcer gives a stream request one isolation level, by a fixed priority among
the attributes its policy enables, and a key made of the attribute of that level.
-/

namespace GoTor.Stream

open GoTor.Lib

/-! ### Isolation keys -/

inductive IsolationLevel
  | none
  | destination
  | credential
  | port
  | session
  deriving DecidableEq

structure IsolationKey where
  level : IsolationLevel
  destination : Bytes := []
  /-- The hashed user name, in hexadecimal. -/
  credentials : Bytes := []
  sourcePort : UInt16 := 0
  sessionToken : Bytes := []
  deriving DecidableEq

namespace IsolationKey

/-- `Key`: the index into the pool of isolated circuits. -/
def key (k : IsolationKey) : Bytes :=
  match k.level with
  | .none => []
  | .destination => ascii "dest:" ++ k.destination
  | .credential => ascii "creds:" ++ k.credentials
  | .port => ascii "port:" ++ itoa k.sourcePort.toNat
  | .session => ascii "session:" ++ k.sessionToken

/-- `Equals` of two keys that are not nil. -/
def equals (k other : IsolationKey) : Bool :=
  k.level == other.level &&
    match k.level with
    | .none => true
    | .destination => k.destination == other.destination
    | .credential => k.credentials == other.credentials
    | .port => k.sourcePort == other.sourcePort
    | .session => k.sessionToken == other.sessionToken

def validate (k : IsolationKey) : Except Bytes Unit :=
  match k.level with
  | .none => .ok ()
  | .destination =>
    if k.destination = [] then .error (ascii "destination isolation requires a destination")
    else if HostPort.colon ∉ k.destination then
      .error (ascii "invalid destination format: " ++ k.destination ++ ascii " (expected host:port)")
    else .ok ()
  | .credential =>
    if k.credentials = [] then .error (ascii "credential isolation requires credentials")
    else .ok ()
  | .port =>
    if k.sourcePort = 0 then .error (ascii "port isolation requires a non-zero source port")
    else .ok ()
  | .session =>
    if k.sessionToken = [] then .error (ascii "session isolation requires a session token")
    else .ok ()

end IsolationKey

/-! ### The enforcer -/

inductive IsolationMode
  | off
  | warn
  | strict
  deriving DecidableEq

structure IsolationPolicy where
  mode : IsolationMode
  isolateBySOCKSAuth : Bool := false
  isolateByDestination : Bool := false
  isolateBySourcePort : Bool := false
  isolateBySession : Bool := false
  enforceOnExistingCircuits : Bool := true
  deriving DecidableEq

/-- The client's address: its TCP port, or the text of another address. -/
inductive SourceAddr
  | tcp (port : UInt16)
  | other (addr : Bytes)
  deriving DecidableEq

structure StreamRequest where
  target : Bytes
  sourceAddr : SourceAddr
  socksUsername : Bytes
  sessionToken : Bytes := []
  deriving DecidableEq

structure IsolationResult where
  allowed : Bool := true
  key : Option IsolationKey := none
  reason : Bytes := []
  warnings : List Bytes := []
  deriving DecidableEq

/-- What the enforcer calls outside: SHA-256, and `Sscanf` of a port number. -/
structure IsolationLib where
  sha256 : Bytes → Vector UInt8 32
  scanPort : Bytes → Option UInt16

variable (L : IsolationLib) (policy : IsolationPolicy) (req : StreamRequest)

/-- Priority: session, credential, destination, port. -/
def determineIsolationLevel : IsolationLevel :=
  if policy.isolateBySession ∧ req.sessionToken ≠ [] then .session
  else if policy.isolateBySOCKSAuth ∧ req.socksUsername ≠ [] then .credential
  else if policy.isolateByDestination ∧ req.target ≠ [] then .destination
  else if policy.isolateBySourcePort then .port
  else .none

def extractSourcePort : SourceAddr → UInt16
  | .tcp port => port
  | .other addr =>
    match splitHostPort addr with
    | .error _ => 0
    | .ok (_, portStr) => (L.scanPort portStr).getD 0

/-- The key of a level, with the warning or the refusal that comes with building it. -/
def buildKey (level : IsolationLevel) : IsolationResult :=
  match level with
  | .none => {}
  | .destination =>
    { key := some { level, destination := req.target }
      warnings := if req.target = [] then
        [ascii "destination isolation requested but no target specified"] else [] }
  | .credential =>
    if req.socksUsername = [] then
      if policy.mode = .strict then
        { allowed := false, key := some { level }
          reason := ascii "credential isolation requires SOCKS5 authentication" }
      else
        { key := some { level }
          warnings := [ascii "credential isolation requested but no username provided"] }
    else
      { key := some { level, credentials := hexEncode (L.sha256 req.socksUsername).toList } }
  | .port =>
    let port := extractSourcePort L req.sourceAddr
    { key := some { level, sourcePort := port }
      warnings := if port = 0 then
        [ascii "port isolation requested but source port not available"] else [] }
  | .session =>
    if req.sessionToken = [] then
      if policy.mode = .strict then
        { allowed := false, key := some { level }
          reason := ascii "session isolation requires session token" }
      else
        { key := some { level }
          warnings := [ascii "session isolation requested but no token provided"] }
    else
      { key := some { level, sessionToken := hexEncode (L.sha256 req.sessionToken).toList } }

def validateStreamRequest : IsolationResult :=
  if policy.mode = .off then {}
  else
    let result := buildKey L policy req (determineIsolationLevel policy req)
    match result.allowed, result.key with
    | true, some key =>
      match key.validate with
      | .ok _ => result
      | .error e =>
        if policy.mode = .strict then
          { result with allowed := false, reason := ascii "invalid isolation key: " ++ e }
        else
          { result with
            warnings := result.warnings ++ [ascii "isolation key validation failed: " ++ e] }
    | _, _ => result

/-- The keys registered for circuits, by circuit ID. -/
abbrev CircuitKeys := UInt32 → Option IsolationKey

/-- `CheckCircuitCompatibility` for a stream key that is not nil. -/
def checkCircuitCompatibility (keys : CircuitKeys) (circuitID : UInt32) (streamKey : IsolationKey) : Bool :=
  if !policy.enforceOnExistingCircuits then true
  else
    match keys circuitID with
    | none => streamKey.level = .none ∨ policy.mode ≠ .strict
    | some circuitKey =>
      streamKey.level = .none ∨ streamKey.equals circuitKey ∨ policy.mode ≠ .strict

/-- `RegisterCircuit`: an existing key is kept. -/
def registerCircuit (keys : CircuitKeys) (circuitID : UInt32) (key : IsolationKey) : CircuitKeys :=
  if (keys circuitID).isSome then keys
  else fun id => if id = circuitID then some key else keys id

end GoTor.Stream

import GoTor.Connection.Tls

/-!
# The link handshake

The client side: VERSIONS, the relay's CERTS and NETINFO, over a TLS connection that is
already there.  What arrives is a list of cells and read errors; when it ends, the next read
runs into the timeout.
-/

namespace GoTor.Protocol

open GoTor.Lib GoTor.Cell Command

def minLinkProtocolVersion : ℕ := 3
def maxLinkProtocolVersion : ℕ := 5
def preferredVersion : ℕ := 4

structure Link where
  incoming : List (Except String Cell)
  sent : List Cell := []
  circIDLen : ℕ := 2

/-- Calls of the handshake: an error leaves the link as it is then. -/
abbrev LinkM := EStateM String Link

/-- What does not depend on the link. -/
structure HandshakeEnv where
  certs : CertsLib
  cfg : Connection.Config
  now : Int
  /-- The error of the `n`-th write, if it fails. -/
  sendError : ℕ → Option String

/-- `fmt.Errorf("label: %w", err)` around a call. -/
def LinkM.wrap {α : Type} (label : String) (x : LinkM α) : LinkM α := fun link =>
  match x link with
  | .ok a link => .ok a link
  | .error e link => .error s!"{label}: {e}" link

def LinkM.lift {α : Type} (x : Except String α) : LinkM α := fun link =>
  match x with
  | .ok a => .ok a link
  | .error e => .error e link

variable (env : HandshakeEnv)

def sendCell (c : Cell) : LinkM Unit := fun link =>
  match env.sendError link.sent.length with
  | some e => .error e link
  | none => .ok () { link with sent := link.sent ++ [c] }

/-- The next cell that is not skipped. -/
def receiveFrom (what : String) (skip : Command → Bool) :
    List (Except String Cell) → Except String Cell × List (Except String Cell)
  | [] => (.error s!"timeout waiting for {what} response", [])
  | .error e :: rest => (.error e, rest)
  | .ok c :: rest => if skip c.command then receiveFrom what skip rest else (.ok c, rest)

def receiveCell (what : String) (skip : Command → Bool) : LinkM Cell := fun link =>
  match receiveFrom what skip link.incoming with
  | (.ok c, rest) => .ok c { link with incoming := rest }
  | (.error e, rest) => .error e { link with incoming := rest }

def sendVersions : LinkM Unit :=
  sendCell env ⟨0, .versions, [minLinkProtocolVersion, preferredVersion,
    maxLinkProtocolVersion].flatMap (bytesOfNat 2)⟩

/-- The versions in a VERSIONS payload of even length. -/
def parseVersions : Bytes → List ℕ
  | hi :: lo :: rest => (hi.toNat * 256 + lo.toNat) :: parseVersions rest
  | _ => []

/-- `selectVersion`; zero if there is no common version. -/
def selectVersion (remoteVersions : List ℕ) : ℕ :=
  let supported := List.range' minLinkProtocolVersion (maxLinkProtocolVersion - minLinkProtocolVersion + 1)
  (supported.reverse.find? (· ∈ remoteVersions)).getD 0

def receiveVersions : LinkM ℕ := do
  let c ← receiveCell "VERSIONS" fun _ => false
  if c.command ≠ .versions then throw s!"expected VERSIONS cell, got {string c.command}"
  else if c.payload.length % 2 ≠ 0 then
    throw s!"invalid VERSIONS payload length: {c.payload.length}"
  else if selectVersion (parseVersions c.payload) = 0 then
    throw "no compatible protocol version"
  else return selectVersion (parseVersions c.payload)

/-- A failed check, which only ends the handshake in strict mode. -/
def enforce (label : String) (x : Except String Unit) : Except String Unit :=
  match x with
  | .ok _ => .ok ()
  | .error e => if env.cfg.requireCERTS then .error s!"{label} (strict mode): {e}" else .ok ()

/-- The checks of `receiveCERTS`. -/
def checkCERTS (certs : List Certificate) : Except String Unit := do
  enforce env "certificate expiration validation failed" (validateExpiration env.certs env.now certs)
  enforce env "certificate signature validation failed" (validateSignatures env.certs certs)
  if env.cfg.expectedIdentity ≠ [] ∨ env.cfg.expectedFingerprint ≠ "" then
    enforce env "relay identity validation failed"
      (validateRelayIdentity env.certs certs env.cfg.expectedFingerprint env.cfg.expectedIdentity)
  else .ok ()

def receiveCERTS : LinkM Unit := do
  let c ← receiveCell "CERTS" (· = .padding)
  if c.command ≠ .certs then throw s!"expected CERTS cell, got {string c.command}"
  else
    let certs ← LinkM.lift (wrapError "failed to parse CERTS cell" (parseCERTSCell env.certs c))
    LinkM.lift (checkCERTS env certs)

/-- `SafeUnixToUint32`, with zero for a time it refuses. -/
def netinfoTimestamp (now : Int) : ℕ :=
  let unix := now / 1000000000
  if unix < 0 ∨ unix > 4294967295 then 0 else unix.toNat

def sendNetinfo : LinkM Unit :=
  sendCell env ⟨0, .netinfo,
    bytesOfNat 4 (netinfoTimestamp env.now) ++ [4, 4, 0, 0, 0, 0, 0]⟩

def receiveNetinfo : LinkM Unit := do
  let c ← receiveCell "NETINFO" fun cmd =>
    cmd = .authChallenge || cmd = .padding || cmd = .vPadding
  if c.command ≠ .netinfo then throw s!"expected NETINFO cell, got {string c.command}"
  else return ()

/-- `PerformHandshake`: the negotiated version. -/
def performHandshake : LinkM ℕ := do
  LinkM.wrap "failed to send VERSIONS" (sendVersions env)
  let version ← LinkM.wrap "failed to receive VERSIONS" receiveVersions
  modify fun link => { link with circIDLen := if version ≥ 4 then 4 else 2 }
  tryCatch (receiveCERTS env) fun e =>
    if version ≥ 3 ∨ env.cfg.requireCERTS then
      throw s!"CERTS cell handling failed (protocol v{version} requires CERTS): {e}"
    else return ()
  LinkM.wrap "failed to send NETINFO" (sendNetinfo env)
  LinkM.wrap "failed to receive NETINFO" receiveNetinfo
  return version

/-- A client's connection to a relay that presents `rawCerts` in TLS: `Connect` and then the
handshake. -/
def connectAndHandshake (rawCerts : List Bytes) : LinkM ℕ := do
  LinkM.lift (wrapError "TLS handshake failed"
    (Connection.verifyTorRelayConnection env.certs env.now env.cfg rawCerts))
  performHandshake env

end GoTor.Protocol

import GoTor.Socks.Connect

/-!
# Onion hosts and exits

A host that names the `.onion` domain must not reach an exit.  The server recognises such a
host by its last six bytes, as they are; names that differ from them in case or end with a dot
go to an exit (`onion_host_leaks`).
-/

namespace GoTor.Socks

open GoTor.Lib GoTor.Onion GoTor.Stream List

/-! ### The domain of a host -/

def dot : UInt8 := 46

def lowerByte (c : UInt8) : UInt8 := if 65 ≤ c ∧ c ≤ 90 then c + 32 else c

def normalHost (host : Bytes) : Bytes := ((host.reverse.dropWhile (· == dot)).reverse).map lowerByte

/-- The host names the `.onion` domain: case and trailing dots do not count. -/
def namesOnion (host : Bytes) : Bool :=
  normalHost host == v3Suffix.tail || v3Suffix.isSuffixOf (normalHost host)

/-- A byte of an IP literal: a hexadecimal digit, a dot or a colon. -/
def ipByte (c : UInt8) : Bool :=
  (48 ≤ c && c ≤ 57) || (65 ≤ c && c ≤ 70) || (97 ≤ c && c ≤ 102) || c == dot || c == HostPort.colon

/-- The target splits, and its port is a number from 1 on. -/
def HasPort (L : SocksLib) (targetAddr : Bytes) : Prop :=
  ∃ host portStr port, splitHostPort targetAddr = .ok (host, portStr) ∧ L.scanPort portStr = some port ∧ 1 ≤ port

def SocksAct.ToExit : SocksAct → Prop
  | .openStream _ _ _ _ _ => True
  | _ => False

/-- The request is handed to the onion-service client or refused. -/
def SocksAct.Settles : SocksAct → Prop
  | .connectToOnionService _ => True
  | .reply code => code ≠ replySuccess
  | _ => False

/-- Whatever the pool, the policy and the network answer, no RELAY_BEGIN goes to an exit, and
the request is handed to the onion-service client or refused. -/
def KeptFromExits (p : SocksProg Unit) : Prop :=
  (p.Always fun a => ¬ a.ToExit) ∧ p.Surely SocksAct.Settles

section

variable {L : SocksLib} {cfg : Config} {host targetAddr : Bytes}

lemma exists_letter_of_namesOnion (h : namesOnion host = true) : ∃ c ∈ host, lowerByte c = 111 := by
  have hmem : (111 : UInt8) ∈ normalHost host := by
    rcases Bool.or_eq_true _ _ ▸ h with h | h
    · rw [eq_of_beq h]
      decide
    · obtain ⟨front, hfront⟩ := isSuffixOf_iff_suffix.1 h
      rw [← hfront]
      exact mem_append_right _ (by decide)
  obtain ⟨c, hc, hlower⟩ := mem_map.1 hmem
  have hsub := mem_reverse.1 hc
  exact ⟨c, mem_reverse.1 ((dropWhile_sublist _).subset hsub), hlower⟩

lemma not_ipByte_of_letter {c : UInt8} (h : lowerByte c = 111) : ipByte c = false := by
  unfold lowerByte at h
  split at h
  · have : c = 79 := by
      have hc : c + 32 - 32 = 111 - 32 := by rw [h]
      simpa using hc
    rw [this]
    decide
  · rw [h]
    decide

lemma parseIP_of_namesOnion (hIP : ∀ b ip, L.parseIP b = some ip → ∀ c ∈ b, ipByte c = true)
    (h : namesOnion host = true) : L.parseIP host = none := by
  obtain ⟨c, hc, hlower⟩ := exists_letter_of_namesOnion h
  cases hip : L.parseIP host with
  | none => rfl
  | some ip =>
    have hbyte := hIP host ip hip c hc
    rw [not_ipByte_of_letter hlower] at hbyte
    cases hbyte

variable {req : StreamRequest}

lemma connectToOnion_kept : KeptFromExits (connectToOnion L req host) := by
  unfold connectToOnion
  split
  · exact ⟨⟨id, fun _ => trivial⟩, .inl (show replyHostUnreachable ≠ replySuccess by decide)⟩
  refine ⟨⟨id, ?_⟩, .inl trivial⟩
  rintro (_ | circ)
  · exact ⟨id, fun _ => trivial⟩
  · exact ⟨id, fun _ => ⟨id, fun _ => trivial⟩⟩

lemma connectToExit_leaks {destIP : Option Bytes} {port : UInt16} :
    ¬ KeptFromExits (connectToExit req host destIP port) := by
  rintro ⟨hno, -⟩
  refine Prog.not_always_of_may ?_ hno
  -- there is a pool, the request needs no isolation, and the pool's circuit will do
  refine .inr ⟨(true, true), .inr ⟨{}, ?_⟩⟩
  refine .inr ⟨some 0, .inr ⟨true, .inr ⟨some 1, .inr ⟨true, ?_⟩⟩⟩⟩
  exact .inl fun h => h trivial

lemma exitTarget_of_hasPort (cfg : Config) (hIP : L.parseIP (hostOf targetAddr) = none) (h : HasPort L targetAddr) :
    ∃ host destIP port, exitTarget L cfg targetAddr = .ok (host, destIP, port) := by
  obtain ⟨host, portStr, port, hsplit, hscan, hport⟩ := h
  have hnone : L.parseIP host = none := by
    simpa only [hostOf, hsplit] using hIP
  have hlt : ¬ port < 1 := UInt16.not_lt.2 hport
  simp [exitTarget, hsplit, hscan, hlt, hnone]

lemma exitTarget_of_not_hasPort (h : ¬ HasPort L targetAddr) :
    exitTarget L cfg targetAddr = .error replyGeneralFailure := by
  unfold exitTarget
  split
  · rfl
  next host portStr hsplit =>
  split
  · rfl
  next port hscan =>
  have hlt : port < 1 := by
    by_contra hge
    exact h ⟨host, portStr, port, hsplit, hscan, UInt16.not_lt.1 hge⟩
  rw [if_pos hlt]

variable {source : SourceAddr}

lemma handleConnect_kept_iff {username : Bytes}
    (hIP : ∀ b ip, L.parseIP b = some ip → ∀ c ∈ b, ipByte c = true)
    (honion : namesOnion (hostOf (mappedTarget L cfg targetAddr)) = true) :
    KeptFromExits (handleConnect L cfg username source targetAddr) ↔
      isOnionAddress (hostOf (mappedTarget L cfg targetAddr)) = true ∨
        ¬ HasPort L (mappedTarget L cfg targetAddr) := by
  unfold handleConnect
  dsimp only
  split
  next hsuffix =>
    exact ⟨fun _ => .inl hsuffix, fun _ => connectToOnion_kept⟩
  next hsuffix =>
  by_cases hport : HasPort L (mappedTarget L cfg targetAddr)
  · obtain ⟨host, destIP, port, hexit⟩ := exitTarget_of_hasPort cfg (parseIP_of_namesOnion hIP honion) hport
    rw [hexit]
    constructor
    · exact fun h => absurd h connectToExit_leaks
    · rintro (h | h)
      · exact absurd h hsuffix
      · exact absurd hport h
  · rw [exitTarget_of_not_hasPort hport]
    refine ⟨fun _ => .inr hport, fun _ => ⟨⟨id, fun _ => trivial⟩, .inl ?_⟩⟩
    show replyGeneralFailure ≠ replySuccess
    decide

lemma handleConnection_connect {username rest input : Bytes} (hhand : handshake input = some (username, rest))
    (hreq : readRequest L cfg rest = .ok ⟨cmdConnect, targetAddr⟩) :
    handleConnection L cfg source input = handleConnect L cfg username source targetAddr := by
  unfold handleConnection
  rw [hhand]
  dsimp only
  rw [hreq]
  rfl

/-- **Onion hosts and exits.**  For every CONNECT request and every address map: when the
mapped host names the `.onion` domain, the request is kept from the exits if and only if the
host ends in `.onion` byte by byte, or the mapped target has no usable port. -/
theorem onion_host_kept_iff {username rest input : Bytes} {source : SourceAddr}
    (hIP : ∀ b ip, L.parseIP b = some ip → ∀ c ∈ b, ipByte c = true)
    (hhand : handshake input = some (username, rest))
    (hreq : readRequest L cfg rest = .ok ⟨cmdConnect, targetAddr⟩)
    (honion : namesOnion (hostOf (mappedTarget L cfg targetAddr)) = true) :
    KeptFromExits (handleConnection L cfg source input) ↔
      isOnionAddress (hostOf (mappedTarget L cfg targetAddr)) = true ∨
        ¬ HasPort L (mappedTarget L cfg targetAddr) := by
  rw [handleConnection_connect hhand hreq]
  exact handleConnect_kept_iff hIP honion

end

/-! ### Two requests -/

/-- A library to compute with: host names are no IP literals, ports are decimal. -/
def plainLib : SocksLib where
  sha256 b := Vector.ofFn fun i => b.getD i 0
  sha3 _ := Vector.replicate 32 0
  scanPort b := some (UInt16.ofNat (b.foldl (fun n c => n * 10 + (c.toNat - 48)) 0))
  toLower b := b.map lowerByte
  parseIP _ := none
  ipString b := b
  isInternalIP _ := false
  atoi _ := none

lemma plainLib_parseIP (b ip : Bytes) (h : plainLib.parseIP b = some ip) : ∀ c ∈ b, ipByte c = true := by
  cases h

/-- A request to CONNECT to a host at port 80, after a handshake without authentication. -/
def connectRequest (host : Bytes) : Bytes :=
  [5, 1, 0, 3, UInt8.ofNat host.length] ++ host ++ [0, 80]

def connectTo (host : Bytes) : Bytes := [5, 1, 0] ++ connectRequest host

theorem onion_host_kept_lower :
    KeptFromExits (handleConnection plainLib {} (.tcp 4000) (connectTo (ascii "a.onion"))) := by
  have hhand : handshake (connectTo (ascii "a.onion")) =
      some ([], connectRequest (ascii "a.onion")) := by decide +kernel
  have hreq : readRequest plainLib {} (connectRequest (ascii "a.onion")) =
      .ok ⟨cmdConnect, ascii "a.onion:80"⟩ := by decide +kernel
  refine (onion_host_kept_iff plainLib_parseIP hhand hreq (by decide +kernel)).2 (.inl ?_)
  decide +kernel

/-- A host with a usable port that does not end in `.onion` byte by byte. -/
lemma plain_connect_leaks (host : Bytes)
    (hhand : handshake (connectTo host) = some ([], connectRequest host))
    (hreq : readRequest plainLib {} (connectRequest host) = .ok ⟨cmdConnect, host ++ ascii ":80"⟩)
    (hsplit : splitHostPort (host ++ ascii ":80") = .ok (host, ascii "80"))
    (honion : namesOnion host = true) (hsuffix : isOnionAddress host = false) :
    ¬ KeptFromExits (handleConnection plainLib {} (.tcp 4000) (connectTo host)) := by
  have hmapped : mappedTarget plainLib {} (host ++ ascii ":80") = host ++ ascii ":80" := by
    simp [mappedTarget, applyAddressMap, hsplit]
  have hhost : hostOf (host ++ ascii ":80") = host := by
    simp only [hostOf, hsplit]
  rw [handleConnection_connect hhand hreq, handleConnect_kept_iff plainLib_parseIP
    (by rw [hmapped, hhost]; exact honion), hmapped, hhost, hsuffix]
  rintro (h | h)
  · cases h
  · exact h ⟨host, ascii "80", 80, hsplit, by decide +kernel, by decide⟩

/-- A trailing dot or a capital letter takes an onion host to an exit. -/
theorem onion_host_leaks :
    (namesOnion (ascii "a.onion.") = true ∧
      ¬ KeptFromExits (handleConnection plainLib {} (.tcp 4000) (connectTo (ascii "a.onion.")))) ∧
    namesOnion (ascii "a.Onion") = true ∧
      ¬ KeptFromExits (handleConnection plainLib {} (.tcp 4000) (connectTo (ascii "a.Onion"))) := by
  refine ⟨⟨by decide +kernel, ?_⟩, by decide +kernel, ?_⟩
  · apply plain_connect_leaks <;> decide +kernel
  · apply plain_connect_leaks <;> decide +kernel

end GoTor.Socks

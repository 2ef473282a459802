import GoTor.Circuit.Deliver

/-!
# The goroutines around the receive channel

What each critical section does to the state, and the goroutines that perform them: for each
circuit the read loop of its connection, and any number of goroutines that read from streams,
open streams, close circuits and send the SENDMEs that deliveries have made due. QuietAct
-/

namespace GoTor.Circuit

open GoTor.Lib GoTor.Crypto GoTor.Cell GoTor.Relay Function

inductive DeliverChoice
  | done
  /-- A timer fires, or a send fails. -/
  | fail (e : String)
  /-- The context of a reader is done. -/
  | ctxDone
  /-- The `select` of a reader takes the closed `destroyCh`. -/
  | destroyed
  | vegas (v : VegasWindow)
  deriving DecidableEq

structure Shared where
  circ : Leg → Circ
  set : ConfluxSet

def Shared.setCirc (s : Shared) (l : Leg) (c : Circ) : Shared :=
  { s with circ := update s.circ l c }

/-- The result of a section that may fail, leaving the state as it was. -/
def Shared.attempt (s : Shared) (l : Leg) : Except String Circ → Except String Unit × Shared
  | .ok c => (.ok (), s.setCirc l c)
  | .error e => (.error e, s)

def Shared.attemptSet (s : Shared) : Except String ConfluxSet → Except String Unit × Shared
  | .ok set => (.ok (), { s with set })
  | .error e => (.error e, s)

variable (P : Primitives) (sha256 : Bytes → Vector UInt8 32)

/-- `ValidateAndTrackAuto` of the circuit's replay protection, if it has one. -/
def Circ.validateAndTrack (c : Circ) (payload : Bytes) : Except String Circ :=
  match c.replay with
  | none => .ok c
  | some r =>
    (r.validateAndTrackAuto sha256 .backward payload).map fun r => { c with replay := some r }

def QuietAct.exec : (q : QuietAct) → DeliverChoice → Shared → q.Resp × Shared
  | .validateAndTrack l payload, _, s => s.attempt l ((s.circ l).validateAndTrack sha256 payload)
  | .decrementDeliverWindow l, _, s =>
    match (s.circ l).decrementDeliverWindowAndTakeSendme with
    | .ok (c, send) => (.ok send, s.setCirc l c)
    | .error e => (.error e, s)
  | .decrementStreamDeliverWindow l sid, _, s =>
    s.attempt l ((s.circ l).decrementStreamDeliverWindow sid)
  | .shouldSendStreamSendme l sid, _, s => ((s.circ l).shouldSendStreamSendme sid, s)
  | .processCircuitSendme l payload, ch, s =>
    let vegas := match ch with
      | .vegas v => v
      | _ => ⟨0, 0⟩
    s.attempt l ((s.circ l).processCircuitSendme payload vegas)
  | .incrementStreamPackageWindow l sid, _, s =>
    ((), s.setCirc l ((s.circ l).incrementStreamPackageWindow sid))
  | .circuitSendmeSent l, _, s => ((), s.setCirc l (s.circ l).circuitSendmeSent)
  | .streamSendmeSent l sid, _, s => ((), s.setCirc l ((s.circ l).streamSendmeSent sid))
  | .length l, _, s => ((s.circ l).hops.length, s)
  | .confluxLinked, _, s => (s.set.linked && !s.set.closed, s)
  | .gotLinked l nonce, _, s =>
    if nonce ≠ s.set.nonce then (.error "LINKED nonce mismatch", s)
    else s.attemptSet (s.set.gotLinked (s.circ l).id l)
  | .sendLinkedAck _, ch, s =>
    match ch with
    | .fail e => (.error e, s)
    | _ => (.ok (), s)
  | .ackSent l, _, s => ((), { s with set := s.set.ackSent l })
  | .handleSwitch l rel, _, s => s.attemptSet (s.set.handleSwitch l rel)
  | .reorder l rc, _, s => ((s.set.reorder l rc).2, { s with set := (s.set.reorder l rc).1 })
  | .onLegClosed l, _, s => ((s.set.onLegClosed l).2, { s with set := (s.set.onLegClosed l).1 })
  | .teardown, _, s => (s.set.teardown.2, { s with set := s.set.teardown.1 })
  | .deliverToStream l rc, _, s => s.attempt l ((s.circ l).deliverToStream rc)

/-! ### What quiet sections leave alone -/

/-- The replay tracker hands out sequence numbers it has not seen. -/
def Circ.ReplayOk (c : Circ) : Prop :=
  ∀ r, c.replay = some r → (r.track .backward).Ahead

/-- A circuit with other windows, queues, hops or replay records, but in the same state and
with the same Conflux field. -/
structure Circ.Quietly (c c' : Circ) : Prop where
  conflux : c'.conflux = c.conflux
  state : c'.state = c.state
  replay : c.ReplayOk → c'.ReplayOk

section Quiet

variable {sha256} {c c' : Circ} {sid : UInt16}

lemma Circ.Quietly.of_replay (hconflux : c'.conflux = c.conflux) (hstate : c'.state = c.state)
    (hreplay : c'.replay = c.replay) : c.Quietly c' :=
  ⟨hconflux, hstate, fun h r hr => h r (hreplay ▸ hr)⟩

lemma Circ.Quietly.refl (c : Circ) : c.Quietly c := .of_replay rfl rfl rfl

variable {payload : Bytes}

open Circ

lemma Circ.validateAndTrack_quietly
    (h : c.validateAndTrack sha256 payload = .ok c') : c.Quietly c' := by
  unfold validateAndTrack at h
  split at h
  · cases h
    exact .refl c
  · next r hr =>
    obtain ⟨r', hr', rfl⟩ := map_eq_ok.1 h
    refine ⟨rfl, rfl, fun hok => ?_⟩
    rintro _ ⟨⟩
    exact (hok r hr).validateAndTrackAuto hr'

lemma Circ.decrementDeliverWindow_quietly {send : Bool}
    (h : c.decrementDeliverWindowAndTakeSendme = .ok (c', send)) : c.Quietly c' := by
  unfold decrementDeliverWindowAndTakeSendme at h
  split at h
  · cases h
  · simp only at h
    split at h <;> (cases h; exact .of_replay rfl rfl rfl)

lemma Circ.decrementStreamDeliverWindow_quietly
    (h : c.decrementStreamDeliverWindow sid = .ok c') : c.Quietly c' := by
  unfold decrementStreamDeliverWindow at h
  split at h
  · cases h
    exact .refl c
  · split at h
    · cases h
    · cases h
      exact .of_replay rfl rfl rfl

lemma Circ.ReplayOk.accepts (hc : c.ReplayOk) (hne : payload ≠ []) (hfresh : ∀ r, c.replay = some r →
      (r.track .backward).digests.lookup (sha256 payload).toList = none) :
    ∃ c', c.validateAndTrack sha256 payload = .ok c' := by
  unfold validateAndTrack
  split
  · exact ⟨c, rfl⟩
  next r hr =>
  obtain ⟨r', hr'⟩ := (hc r hr).accepts hne (hfresh r hr)
  rw [hr']
  exact ⟨_, rfl⟩

lemma Circ.decrementDeliverWindow_accepts (h : 0 < c.deliverWindow) :
    ∃ res, c.decrementDeliverWindowAndTakeSendme = .ok res := by
  unfold decrementDeliverWindowAndTakeSendme
  rw [if_neg (by omega)]
  dsimp only
  split <;> exact ⟨_, rfl⟩

lemma Circ.decrementStreamDeliverWindow_accepts
    (h : ∀ st, c.getStream sid = some st → 0 < st.deliverWindow) :
    ∃ c', c.decrementStreamDeliverWindow sid = .ok c' := by
  unfold decrementStreamDeliverWindow
  split
  · exact ⟨c, rfl⟩
  next st hst =>
  have := h st hst
  rw [if_neg (by omega)]
  exact ⟨_, rfl⟩

lemma Circ.processCircuitSendme_quietly {v : VegasWindow}
    (h : c.processCircuitSendme payload v = .ok c') : c.Quietly c' := by
  obtain ⟨⟨version, digest⟩, -, h⟩ := bind_eq_ok.1 h
  dsimp only at h
  split at h
  · cases h
  split at h
  · cases h
  split at h
  · cases h
  split at h <;> (cases h; exact .of_replay rfl rfl rfl)

lemma Circ.deliverToStream_quietly {rc : RelayCell} (h : c.deliverToStream rc = .ok c') : c.Quietly c' := by
  unfold deliverToStream at h
  split at h
  · cases h
  split at h
  · cases h
  split_ifs at h <;> (cases h; exact .of_replay rfl rfl rfl)

variable {s : Shared}

open Shared

lemma Shared.setCirc_quietly {l : Leg} (h : (s.circ l).Quietly c') (m : Leg) :
    (s.circ m).Quietly ((s.setCirc l c').circ m) := by
  unfold setCirc
  by_cases hm : m = l
  · subst hm
    simpa using h
  · simpa [hm] using Circ.Quietly.refl (s.circ m)

lemma Shared.attempt_quietly {l : Leg} {x : Except String Circ}
    (h : ∀ c', x = .ok c' → (s.circ l).Quietly c') {m : Leg} :
    (s.circ m).Quietly ((s.attempt l x).2.circ m) := by
  cases x with
  | error e => exact .refl _
  | ok c' => exact setCirc_quietly (h c' rfl) m

lemma Shared.attemptSet_circ (s : Shared) (x : Except String ConfluxSet) : (s.attemptSet x).2.circ = s.circ := by
  cases x <;> rfl

/-- **Frame.**  A quiet section leaves the state and the Conflux field of every circuit. -/
theorem QuietAct.exec_quietly (q : QuietAct) {ch : DeliverChoice} (m : Leg) :
    (s.circ m).Quietly ((q.exec sha256 ch s).2.circ m) := by
  cases q with
  | validateAndTrack l payload =>
    exact attempt_quietly (fun _ h => validateAndTrack_quietly h)
  | decrementDeliverWindow l =>
    simp only [exec]
    split
    · next h => exact setCirc_quietly (decrementDeliverWindow_quietly h) m
    · exact .refl _
  | decrementStreamDeliverWindow l sid =>
    exact attempt_quietly (fun _ h => decrementStreamDeliverWindow_quietly h)
  | processCircuitSendme l payload =>
    exact attempt_quietly (fun _ h => processCircuitSendme_quietly h)
  | incrementStreamPackageWindow l sid | circuitSendmeSent l | streamSendmeSent l sid =>
    refine setCirc_quietly ?_ m
    exact .of_replay rfl rfl rfl
  | deliverToStream l rc =>
    exact attempt_quietly (fun _ h => deliverToStream_quietly h)
  | gotLinked l nonce =>
    simp only [exec]
    split
    · exact .refl _
    · rw [attemptSet_circ]
      exact .refl _
  | handleSwitch l rel =>
    simp only [exec]
    rw [attemptSet_circ]
    exact .refl _
  | sendLinkedAck l =>
    simp only [exec]
    split <;> exact .refl _
  | shouldSendStreamSendme l sid | length l | confluxLinked | ackSent l | reorder l rc
  | onLegClosed l | teardown => exact .refl _

end Quiet

/-! ### The state of a run -/

inductive Panic
  | sendOnClosed
  | closeOfClosed
  deriving DecidableEq

/-- The state of a run: the circuits, their channels, and what is recorded of the run. -/
structure DeliverState (Tid : Type) where
  shared : Shared
  chan : Leg → RecvChan := fun _ => {}
  /-- The reason under which `destroyCh` was closed. -/
  destroyed : Leg → Option UInt8 := fun _ => none
  panicked : Option Panic := none
  closeReturned : Leg → Bool := fun _ => false
  /-- Deliveries that have fetched the channel and not finished their `select`. -/
  sending : List (Tid × Leg) := []
  /-- The deliveries that ended: whether they started after a `Close` had returned, and
  their result. -/
  deliveries : List (Leg × Bool × Except String Outcome) := []
  /-- The stream cells (DATA and END) that arrived for a circuit, in order. -/
  arrived : Leg → List RelayCell := fun _ => []
  /-- The stream cells that calls for their own stream took, in order. -/
  taken : Leg → List RelayCell := fun _ => []
  /-- The stream cell that the delivery in progress holds. -/
  inHand : Leg → Option RelayCell := fun _ => none

/-- A cell that `ReadFromStream` returns for its stream. -/
def isStreamCell (rc : RelayCell) : Bool := rc.command == relayData || rc.command == relayEnd

/-- The stream cell inside what `decryptOnion` returned. -/
def Opened.streamCell (o : Opened) : Option RelayCell :=
  if o.hopIdx.isSome then o.decode.toOption.filter isStreamCell else none

/-- Whether a call that takes the cell from the channel returns it: a reader the stream cells
of its stream, an opener only the END. -/
def returnsCell (sid : UInt16) (opening : Bool) (rc : RelayCell) : Bool :=
  isStreamCell rc && rc.streamID == sid && (!opening || rc.command == relayEnd)

namespace DeliverState

variable {Tid : Type} [DecidableEq Tid] (s : DeliverState Tid)

def setChan (l : Leg) (ch : RecvChan) : DeliverState Tid :=
  { s with chan := update s.chan l ch }

def decryptOnion (l : Leg) (cmd : LinkCmd) (payload : Bytes) : Except String Opened × DeliverState Tid :=
  let c := s.shared.circ l
  let (hops, r) := Circuit.decryptOnion P c.hops (cgoAD cmd) payload
  let arriving := r.toOption.bind Opened.streamCell
  (r, { s with
    shared := s.shared.setCirc l { c with hops }
    arrived := update s.arrived l (s.arrived l ++ arriving.toList)
    inHand := update s.inHand l arriving })

/-- The `select` of `enqueueRelayCell`: it sends, waits for room, or gives up when the timer
fires.  Sending on a closed channel panics. -/
def offer (t : Tid) (l : Leg) (rc : RelayCell) (ch : DeliverChoice) :
    Option (Except String Unit × DeliverState Tid) :=
  let s := { s with
    sending := s.sending.filter (· ≠ (t, l))
    inHand := update s.inHand l none }
  match ch with
  | .fail _ => some (.error "relay receive channel full or blocked", s)
  | _ =>
    if (s.chan l).closed then some (.error "", { s with panicked := some .sendOnClosed })
    else if (s.chan l).queue.length < recvChanCap then
      some (.ok (), s.setChan l { s.chan l with queue := (s.chan l).queue ++ [rc] })
    else none

def closeSection (l : Leg) : Option Bool × DeliverState Tid :=
  let c := s.shared.circ l
  if c.state = .closed then (none, s)
  else
    let s' := { s with
      shared := s.shared.setCirc l { c with state := .closed, conflux := false } }
    if (s.chan l).isSet then
      (some c.conflux, { s'.setChan l { s.chan l with isSet := false, closed := true } with
        panicked := if (s.chan l).closed then some .closeOfClosed else s.panicked })
    else (some c.conflux, s')

def receive (l : Leg) (sid : UInt16) (opening chanSet : Bool) (ch : DeliverChoice) :
    Option (Received × DeliverState Tid) :=
  match ch with
  | .ctxDone => some (.ctxDone, s)
  | .destroyed => (s.destroyed l).map fun reason => (.destroyed reason, s)
  | _ =>
    if !chanSet then none
    else
      match (s.chan l).queue with
      | rc :: queue =>
        some (.cell rc, { s.setChan l { s.chan l with queue } with
          taken := update s.taken l
            (s.taken l ++ if returnsCell sid opening rc then [rc] else []) })
      | [] => if (s.chan l).closed then some (.closed, s) else none

/-- What each critical section does.  After a panic there is no further step. -/
def exec (t : Tid) (a : DeliverAct) (ch : DeliverChoice) (s : DeliverState Tid) :
    Option (a.Resp × DeliverState Tid) :=
  if s.panicked.isSome then none
  else match a with
  | .quiet q =>
    some ((q.exec sha256 ch s.shared).1, { s with shared := (q.exec sha256 ch s.shared).2 })
  | .decryptOnion l cmd payload => some (s.decryptOnion P l cmd payload)
  | .confluxSet l => some ((s.shared.circ l).conflux, s)
  | .detachConflux l =>
    some ((), { s with shared := s.shared.setCirc l { s.shared.circ l with conflux := false } })
  | .setState l state =>
    some ((), { s with shared := s.shared.setCirc l { s.shared.circ l with state } })
  | .fetchChan l =>
    if (s.chan l).isSet then some (true, { s with sending := s.sending ++ [(t, l)] })
    else some (false, { s with inHand := update s.inHand l none })
  | .peekChan l => some ((s.chan l).isSet, s)
  | .offer l rc => s.offer t l rc ch
  | .closeSection l => some (s.closeSection l)
  | .notifyDestroyed l reason =>
    let reason := (s.destroyed l).getD reason
    some ((), { s with destroyed := update s.destroyed l (some reason) })
  | .receive l sid opening chanSet => s.receive l sid opening chanSet ch
  | .deliveryStarts l => some (s.closeReturned l, s)
  | .deliveryEnds l late r =>
    some ((), { s with
      deliveries := s.deliveries ++ [(l, late, r)]
      inHand := update s.inHand l none })
  | .closeReturns l =>
    some ((), { s with closeReturned := update s.closeReturned l true })

end DeliverState

/-! ### Goroutines -/

inductive Goroutine (ι : Type)
  | loop (l : Leg)
  | other (i : ι)
  deriving DecidableEq

/-- The cells of a circuit that the read loop gets. -/
inductive LoopCell
  | relay (cell : LinkCell)
  | destroy (reason : UInt8)
  deriving DecidableEq

/-- `dispatch`.  The error of a delivery is only logged. -/
def dispatch (id : UInt32) (l : Leg) : LoopCell → DeliverProg Unit
  | .relay cell => do
    let late ← Prog.lift (DeliverAct.deliveryStarts l)
    let r ← deliverRelayCell id l cell
    Prog.lift (DeliverAct.deliveryEnds l late r)
  | .destroy reason => do
    Prog.lift (DeliverAct.notifyDestroyed l reason)
    close l

inductive CircuitCall
  | readFromStream (l : Leg) (sid : UInt16) (fuel : ℕ)
  | waitStreamConnected (l : Leg) (sid : UInt16) (fuel : ℕ)
  | close (l : Leg)
  /-- The builder is done with the circuit. -/
  | setOpen (l : Leg)
  /-- A goroutine that a DATA cell started: the SENDME goes out, or the circuit fails. -/
  | sendCircuitSendme (l : Leg) (ok : Bool)
  | sendStreamSendme (l : Leg) (sid : UInt16)

def CircuitCall.prog : CircuitCall → DeliverProg Unit
  | .readFromStream l sid fuel => do
    let _ ← Circuit.readFromStream l sid fuel
  | .waitStreamConnected l sid fuel => do
    let _ ← Circuit.waitStreamConnected l sid fuel
  | .close l => Circuit.close l
  | .setOpen l => Prog.lift (DeliverAct.setState l .opened)
  | .sendCircuitSendme l ok => do
    quiet (.circuitSendmeSent l)
    if !ok then
      Prog.lift (DeliverAct.setState l .failed)
      Prog.lift (DeliverAct.notifyDestroyed l 1)
  | .sendStreamSendme l sid => quiet (.streamSendmeSent l sid)

/-! ### What is no part of a delivery -/

def DeliverAct.delivers : DeliverAct → Bool
  | .decryptOnion _ _ _ => true
  | .confluxSet _ => true
  | .fetchChan _ => true
  | .offer _ _ => true
  | .deliveryStarts _ => true
  | .deliveryEnds _ _ _ => true
  | _ => false

def DeliverAct.reads : DeliverAct → Bool
  | .quiet _ => true
  | .peekChan _ => true
  | .receive _ _ _ _ => true
  | _ => false

lemma DeliverAct.delivers_of_reads {a : DeliverAct} (h : a.reads = true) : a.delivers = false := by
  cases a <;> first | rfl | cases h

section Bystanders

variable (l : Leg)

lemma closeCircuit_bystands (depth : ℕ) :
    (closeCircuit depth l).Always fun a => a.delivers = false := by
  induction depth generalizing l with
  | zero => trivial
  | succ depth ih =>
    refine ⟨rfl, ?_⟩
    rintro (_ | inSet)
    · exact ⟨rfl, fun _ => trivial⟩
    refine ⟨rfl, fun _ => ?_⟩
    cases inSet with
    | false => exact ⟨rfl, fun _ => trivial⟩
    | true =>
      refine ⟨rfl, fun others => ?_⟩
      show ((Prog.forEach others _).bind _).Always _
      refine Prog.Always.bind (Prog.Always.forEach ?_ others) ?_
      · exact fun o => ⟨rfl, fun _ => ih o⟩
      · exact fun _ => ⟨rfl, fun _ => trivial⟩

variable {sid : UInt16}

lemma readFromStream_reads (fuel : ℕ) :
    (readFromStream l sid fuel).Always fun a => a.reads = true := by
  induction fuel with
  | zero => trivial
  | succ fuel ih =>
    refine ⟨rfl, fun chanSet => ⟨rfl, ?_⟩⟩
    rintro (reason | rc | _ | _)
    · trivial
    · simp only [Prog.done_bind]
      split
      · exact ⟨rfl, fun _ => ih⟩
      split
      · trivial
      split
      · trivial
      · exact ih
    · trivial
    · trivial

lemma waitStreamConnected_reads (fuel : ℕ) :
    (waitStreamConnected l sid fuel).Always fun a => a.reads = true := by
  induction fuel with
  | zero => trivial
  | succ fuel ih =>
    refine ⟨rfl, fun chanSet => ⟨rfl, ?_⟩⟩
    rintro (reason | rc | _ | _)
    · trivial
    · simp only [Prog.done_bind]
      split
      · exact ⟨rfl, fun _ => ih⟩
      split
      · trivial
      split
      · trivial
      · exact ih
    · trivial
    · trivial

lemma CircuitCall.prog_bystands (call : CircuitCall) : call.prog.Always fun a => a.delivers = false := by
  cases call with
  | readFromStream l sid fuel =>
    exact ((readFromStream_reads l fuel).imp fun _ => DeliverAct.delivers_of_reads).bind fun _ => trivial
  | waitStreamConnected l sid fuel =>
    exact ((waitStreamConnected_reads l fuel).imp fun _ => DeliverAct.delivers_of_reads).bind fun _ => trivial
  | close l => exact closeCircuit_bystands l 2
  | setOpen l | sendStreamSendme l sid => exact ⟨rfl, fun _ => trivial⟩
  | sendCircuitSendme l ok =>
    refine ⟨rfl, fun _ => ?_⟩
    cases ok with
    | true => trivial
    | false => exact ⟨rfl, fun _ => ⟨rfl, fun _ => trivial⟩⟩

end Bystanders

/-- The goroutines around a pair of circuits: what arrives on their connections, and what
the others call. -/
def readersOf {ι : Type} (start : Shared) (cells : Leg → List LoopCell) (calls : ι → List CircuitCall) :
    Config (Goroutine ι) DeliverAct DeliverAct.Resp (DeliverState (Goroutine ι)) where
  shared := { shared := start }
  threads
    | .loop l => Prog.forEach (cells l) (dispatch (start.circ l).id l)
    | .other i => Prog.forEach (calls i) CircuitCall.prog

/-! ### A circuit to compute with -/

def headHash (m : Bytes) : Vector UInt8 32 := Vector.ofFn fun i => m.getD i 0

def oneHopShared : Shared where
  circ _ := { toSender := oneHop }
  set := { nonce := [] }

/-- The link cells in which the relay of the one-hop circuit sends relay cells. -/
def relaySends : CircuitCrypto → List RelayCell → List LoopCell
  | _, [] => []
  | crypto, rc :: rest =>
    match rc.encode with
    | .error _ => []
    | .ok (_, payload) =>
      match crypto.encryptOutbound xorPrimitives payload with
      | .error _ => []
      | .ok (crypto, out, _) => .relay ⟨oneHop.id, .relay, out⟩ :: relaySends crypto rest

def oneHopSends (rcs : List RelayCell) : List LoopCell :=
  match newCircuitCrypto oneHopMaterial with
  | .error _ => []
  | .ok crypto => relaySends crypto rcs

def dataCell (sid : UInt16) (data : Bytes) : RelayCell :=
  { command := relayData, streamID := sid, data }

end GoTor.Circuit

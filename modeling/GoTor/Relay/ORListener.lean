import GoTor.Relay.ExitCount
import GoTor.Relay.HsFrame

/-!
# The OR listener

Every OR connection is served by a `handleConnection` of its own, all of them over one circuit
handler.  When it returns it closes the connection and gives back what it holds of the listener's
own: the slot and the entry in the list of connections.  The circuits that were created on the
connection are not among that; they stay until something else closes them.
-/

namespace GoTor.Relay

open GoTor.Lib GoTor.Cell Function Option ExitTables List Table

/-- The tables of the circuit handler, the forwarding handler and the exit. -/
structure ORTables where
  hs : HsState := {}
  exits : ExitTables
  /-- The connection a circuit was created on. -/
  owner : CircPtr → ConnPtr := fun _ => 0

/-- A cell from a client, with what its handler finds outside. -/
inductive ClientCell
  /-- CREATE2 whose handshake succeeds. -/
  | create2 (circuitID : UInt32) (circNonce : Bytes)
  | relay (env : HsEnv) (answer : OpenAnswer) (circuitID : UInt32) (streamID : UInt16) (cmd : UInt8) (data : Bytes)
  /-- A relay cell that its circuit is closed for: a wrong digest, a SENDME cell that is rejected,
  a stream that is refused. -/
  | violation (circuitID : UInt32) (reason : UInt8)
  | destroy (circuitID : UInt32)
  | ignored
  deriving DecidableEq

namespace ORTables

variable (verify : Bytes → Bytes → Option String) (t : ORTables)

/-- The exit streams of the circuits that have left the table are closed. -/
def withHs (hs : HsState) : ORTables :=
  let gone := (t.hs.circuits.entries.map Prod.fst).filter fun id => (hs.circuits.get id).isNone
  { t with hs, exits := gone.foldl ExitTables.closeCircuit t.exits }

def closeCircuit (circuitID : UInt32) : ORTables :=
  let t := { t with exits := t.exits.closeCircuit circuitID }
  t.withHs (t.hs.closeCircuit circuitID)

/-- The circuit ends here and is joined to none, so its stream cells are the exit's. -/
def endsHere (circuitID : UInt32) : Bool :=
  (t.hs.circuits.get circuitID).any fun p =>
    (t.hs.extended.get circuitID).isNone && (t.hs.heap p).joined.isNone

/-- A recognised relay cell. -/
def relayCell (env : HsEnv) (answer : OpenAnswer) (conn : ConnPtr) (circuitID : UInt32)
    (streamID : UInt16) (cmd : UInt8) (data : Bytes) : ORTables :=
  let key := (circuitID, streamID)
  if t.endsHere circuitID then
    if cmd = relayBegin then { t with exits := t.exits.handleBegin key answer }
    else if cmd = relayBeginDir then { t with exits := t.exits.handleBeginDir key answer }
    else if cmd = relayEnd then { t with exits := t.exits.handleEnd key }
    else t.withHs (HsState.relayCell verify t.hs env circuitID conn streamID cmd data)
  else t.withHs (HsState.relayCell verify t.hs env circuitID conn streamID cmd data)

/-- `handleIncomingCell`, for a cell that has arrived on a connection. -/
def handleIncomingCell (conn : ConnPtr) : ClientCell → ORTables
  | .create2 circuitID circNonce =>
    { t with
      hs := t.hs.create2 circuitID circNonce
      owner := if (t.hs.circuits.get circuitID).isNone then update t.owner t.hs.fresh conn else t.owner }
  | .relay env answer circuitID streamID cmd data =>
    t.relayCell verify env answer conn circuitID streamID cmd data
  | .violation circuitID reason =>
    match t.hs.circuits.get circuitID with
    | none => { t with hs := t.hs.emit (.destroy conn circuitID destroyReasonProtocol) }
    | some _ => closeCircuit { t with hs := t.hs.emit (.destroy conn circuitID reason) } circuitID
  | .destroy circuitID => t.closeCircuit circuitID
  | .ignored => t

def closeAll : ORTables :=
  let all := t.exits.streams.entries.map Prod.snd
  { t with
    hs := { t.hs with
      circuits := .empty, extended := .empty, introByAuth := .empty, rendByCookie := .empty }
    exits := all.foldl ExitTables.teardown
      { t.exits with streams := .empty, circStreams := fun _ => 0 } }

structure Empty (t : ORTables) : Prop where
  circuits : t.hs.circuits = .empty
  extended : t.hs.extended = .empty
  introByAuth : t.hs.introByAuth = .empty
  rendByCookie : t.hs.rendByCookie = .empty
  streams : t.exits.streams = .empty

end ORTables

open ORTables

/-- Where `handleConnection` stands. -/
inductive ConnPhase
  /-- TLS and link handshake. -/
  | handshaking
  | serving
  | returned
  deriving DecidableEq

structure ORListener where
  maxConnections : ℕ
  tables : ORTables
  /-- The connections that have been accepted. -/
  phase : ConnPtr → Option ConnPhase := fun _ => none
  remoteAddr : ConnPtr → Bytes := fun _ => []
  fresh : ConnPtr := 0
  connections : Table Bytes ConnPtr := .empty
  activeConns : ℕ := 0
  stopped : Bool := false

inductive ORStep
  /-- A connection arrives; `allowed` is the answer of `OnConnect`. -/
  | accept (addr : Bytes) (allowed : Bool)
  | handshakeFails (c : ConnPtr)
  | linked (c : ConnPtr)
  | cell (c : ConnPtr) (m : ClientCell)
  /-- The context is done, the listener stops or a read fails: `handleConnection` returns. -/
  | leave (c : ConnPtr)
  | extended (circuitID : UInt32)
  /-- DESTROY from the next hop of a circuit. -/
  | nextHopDestroy (circuitID : UInt32)
  | pumpEnds (p : StreamPtr) (reason : Option UInt8)
  | stop
  deriving DecidableEq

namespace ORListener

variable (verify : Bytes → Bytes → Option String)

/-- What every return undoes. -/
def release (l : ORListener) (c : ConnPtr) : ORListener :=
  { l with
    phase := update l.phase c (some .returned)
    activeConns := l.activeConns - 1 }

def step (l : ORListener) : ORStep → Option ORListener
  | .accept addr allowed =>
    if l.stopped then none
    else if 0 < l.maxConnections ∧ l.maxConnections ≤ l.activeConns then some l
    else if !allowed then some l
    else some { l with
      phase := update l.phase l.fresh (some .handshaking)
      remoteAddr := update l.remoteAddr l.fresh addr
      fresh := l.fresh + 1
      activeConns := l.activeConns + 1 }
  | .handshakeFails c => if l.phase c = some .handshaking then some (l.release c) else none
  | .linked c =>
    if l.phase c = some .handshaking then
      some { l with
        phase := update l.phase c (some .serving)
        connections := l.connections.set (l.remoteAddr c) c }
    else none
  | .cell c m =>
    if l.phase c = some .serving ∧ l.stopped = false then
      some { l with tables := l.tables.handleIncomingCell verify c m }
    else none
  | .leave c =>
    if l.phase c = some .serving then
      some { l.release c with connections := l.connections.erase (l.remoteAddr c) }
    else none
  | .extended circuitID =>
    if l.stopped then none
    else some { l with tables := { l.tables with hs := l.tables.hs.extend circuitID } }
  | .nextHopDestroy circuitID =>
    if l.stopped then none else some { l with tables := l.tables.closeCircuit circuitID }
  | .pumpEnds p reason =>
    some { l with tables := { l.tables with exits := l.tables.exits.pumpEnds p reason } }
  | .stop =>
    if l.stopped then none else some { l with tables := l.tables.closeAll, stopped := true }

end ORListener

open ORListener

/-! ### What the exit leaves alone -/

namespace ExitTables

variable {m : ExitTables} {key key' : StreamKey}

@[simp] lemma streams_teardown (p : StreamPtr) : (m.teardown p).streams = m.streams := by
  unfold teardown
  split <;> rfl

lemma streams_foldl_teardown (ps : List StreamPtr) (m : ExitTables) : (ps.foldl teardown m).streams = m.streams := by
  induction ps generalizing m with
  | nil => rfl
  | cons p ps ih => rw [foldl_cons, ih, streams_teardown]

@[simp] lemma streams_countDown (circID : UInt32) : (m.countDown circID).streams = m.streams := by
  unfold countDown
  split <;> rfl

variable (hne : key ≠ key')
include hne

lemma get_dropOld : (m.dropOld key').streams.get key = m.streams.get key := by
  unfold dropOld
  split
  · rfl
  · rw [streams_teardown]
    exact get_erase_of_ne _ hne

lemma get_delete : (m.delete key').streams.get key = m.streams.get key := by
  rw [delete, streams_countDown]
  exact get_erase_of_ne _ hne

lemma get_removeStream : (m.removeStream key').streams.get key = m.streams.get key := by
  unfold removeStream
  split
  · rfl
  · rw [streams_teardown, get_delete hne]

lemma get_insert (tcp : Bool) : (m.insert key' tcp).streams.get key = m.streams.get key :=
  get_set_of_ne _ hne

variable {answer : OpenAnswer}

lemma get_handleBegin : (m.handleBegin key' answer).streams.get key = m.streams.get key := by
  have hdrop : (m.dropOld key').streams.get key = m.streams.get key := get_dropOld hne
  unfold handleBegin
  split
  · rfl
  dsimp only
  split
  · exact hdrop
  split
  · exact hdrop
  next m' hacq =>
  obtain ⟨-, rfl⟩ := acquire_eq_some hacq
  split
  next tcp _ => exact (get_insert hne tcp).trans hdrop
  · exact hdrop
  · exact hdrop

lemma get_handleBeginDir : (m.handleBeginDir key' answer).streams.get key = m.streams.get key := by
  unfold handleBeginDir
  split
  · rfl
  dsimp only
  split
  · rfl
  split
  · exact congrArg (fun t : Table StreamKey StreamPtr => t.get key) (streams_countDown _)
  next m' hacq =>
  obtain ⟨-, rfl⟩ := acquire_eq_some hacq
  split
  next tcp _ => exact get_insert hne tcp
  next tcp _ => exact (get_removeStream hne).trans (get_insert hne tcp)
  · exact congrArg (fun t : Table StreamKey StreamPtr => t.get key) (streams_countDown _)

lemma get_handleEnd : (m.handleEnd key').streams.get key = m.streams.get key := by
  unfold handleEnd
  split
  · rfl
  dsimp only
  split
  · rw [streams_teardown, get_delete hne]
  split
  · rfl
  · rw [streams_teardown, get_delete hne]

omit hne

lemma get_pumpEnds {p : StreamPtr} (hne : ∀ key', m.pumps.get p = some key' → key ≠ key')
    {reason : Option UInt8} : (m.pumpEnds p reason).streams.get key = m.streams.get key := by
  unfold pumpEnds
  split
  · rfl
  next key' hpump =>
    refine (get_removeStream (hne key' hpump)).trans ?_
    cases reason <;> rfl

lemma get_closeCircuit {circID : UInt32} (hne : key.1 ≠ circID) :
    (m.closeCircuit circID).streams.get key = m.streams.get key := by
  rw [closeCircuit, streams_foldl_teardown]
  rw [get_keep]
  cases m.streams.get key <;> simp [hne]

lemma get_foldl_closeCircuit (circIDs : List UInt32) (hne : key.1 ∉ circIDs) (m : ExitTables) :
    (circIDs.foldl closeCircuit m).streams.get key = m.streams.get key := by
  induction circIDs generalizing m with
  | nil => rfl
  | cons circID circIDs ih =>
    obtain ⟨hhead, htail⟩ := not_or.1 (mem_cons.not.1 hne)
    rw [foldl_cons, ih htail, get_closeCircuit hhead]

end ExitTables

/-! ### What a cell leaves alone -/

namespace ORTables

variable {t t' : ORTables} {p : CircPtr}

def Concerns (t : ORTables) (p : CircPtr) : ClientCell → Prop
  | .relay env _ circuitID streamID cmd data =>
    t.hs.Concerns p (.relay env circuitID 0 streamID cmd data)
  | .violation circuitID _ | .destroy circuitID => t.hs.Concerns p (.close circuitID)
  | .create2 _ _ | .ignored => False

instance decidableConcerns (p : CircPtr) : (m : ClientCell) → Decidable (t.Concerns p m)
  | .relay env _ circuitID streamID cmd data =>
    inferInstanceAs (Decidable (t.hs.Concerns p (.relay env circuitID 0 streamID cmd data)))
  | .violation circuitID _ => inferInstanceAs (Decidable (t.hs.Concerns p (.close circuitID)))
  | .destroy circuitID => inferInstanceAs (Decidable (t.hs.Concerns p (.close circuitID)))
  | .create2 _ _ => isFalse id
  | .ignored => isFalse id

/-- **The circuit and its streams have been left alone.** -/
structure Kept (t t' : ORTables) (p : CircPtr) : Prop where
  circuit : HsState.Kept t.hs t'.hs p
  streams : ∀ key : StreamKey, key.1 = (t.hs.heap p).circuitID → t'.exits.streams.get key = t.exits.streams.get key

lemma Kept.refl (hp : t.hs.Live p) : Kept t t p := ⟨.refl hp, fun _ _ => rfl⟩

lemma Kept.trans {t'' : ORTables} (h : Kept t t' p) (h' : Kept t' t'' p) : Kept t t'' p :=
  ⟨h.circuit.trans h'.circuit, fun key hkey =>
    (h'.streams key (by rw [h.circuit.heap]; exact hkey)).trans (h.streams key hkey)⟩

lemma Kept.withHs {hs : HsState} (h : HsState.Kept t.hs hs p) : Kept t (t.withHs hs) p := by
  refine ⟨h, fun key hkey => get_foldl_closeCircuit _ (fun hmem => ?_) _⟩
  have hnone := (mem_filter.1 hmem).2
  have hlive := h.live
  rw [HsState.Live, h.heap, ← hkey] at hlive
  rw [hlive] at hnone
  cases hnone

lemma Kept.of_hs {hs : HsState} (h : HsState.Kept t.hs hs p) {owner : CircPtr → ConnPtr} :
    Kept t { t with hs, owner } p :=
  ⟨h, fun _ _ => rfl⟩

lemma Kept.of_exits (hp : t.hs.Live p) {exits : ExitTables} (h : ∀ key : StreamKey, key.1 = (t.hs.heap p).circuitID →
      exits.streams.get key = t.exits.streams.get key) : Kept t { t with exits } p :=
  ⟨.refl hp, h⟩

variable (h : HsInv t.hs)
include h

variable {circuitID : UInt32}

lemma Kept.closeCircuit (hp : t.hs.Live p) (hclose : ¬ t.hs.Concerns p (.close circuitID)) :
    Kept t (t.closeCircuit circuitID) p := by
  obtain ⟨hid, hmate⟩ := not_or.1 hclose
  have hexits : Kept t { t with exits := t.exits.closeCircuit circuitID } p :=
    .of_exits hp fun key hkey => get_closeCircuit (hkey ▸ Ne.symm hid)
  exact hexits.trans (.withHs (.closeCircuit h hp hid hmate))

variable {verify : Bytes → Bytes → Option String} {conn : ConnPtr}

lemma Kept.relayCell (hp : t.hs.Live p) {env : HsEnv} {streamID : UInt16} {cmd : UInt8}
    {data : Bytes} (hrelay : ¬ t.hs.Concerns p (.relay env circuitID 0 streamID cmd data))
    {answer : OpenAnswer} :
    Kept t (t.relayCell verify env answer conn circuitID streamID cmd data) p := by
  obtain ⟨hid, hrest⟩ := not_or.1 hrelay
  obtain ⟨hmate, hrest⟩ := not_or.1 hrest
  obtain ⟨hexp, hmeets⟩ := not_or.1 hrest
  have hkey : ∀ key : StreamKey, key.1 = (t.hs.heap p).circuitID → key ≠ (circuitID, streamID) :=
    fun key hkey heq => hid (hkey ▸ (congrArg Prod.fst heq).symm)
  have hhs : Kept t (t.withHs (HsState.relayCell verify t.hs env circuitID conn streamID cmd data))
      p := .withHs (.relayCell h hp hid hmate hexp hmeets)
  unfold ORTables.relayCell
  split
  · split
    · exact .of_exits hp fun key hk => get_handleBegin (hkey key hk)
    split
    · exact .of_exits hp fun key hk => get_handleBeginDir (hkey key hk)
    split
    · exact .of_exits hp fun key hk => get_handleEnd (hkey key hk)
    · exact hhs
  · exact hhs

lemma Kept.handleIncomingCell (hp : t.hs.Live p) {m : ClientCell} (hm : ¬ t.Concerns p m) :
    Kept t (t.handleIncomingCell verify conn m) p := by
  cases m with
  | create2 circuitID circNonce => exact .of_hs (.create2 h hp)
  | relay env answer circuitID streamID cmd data => exact .relayCell h hp hm
  | violation circuitID reason =>
    have hemit : ∀ reason, Kept t { t with hs := t.hs.emit (.destroy conn circuitID reason) } p :=
      fun reason => .of_hs (.emit hp (o := .destroy conn circuitID reason) (not_or.1 hm).1)
    change Kept t (match t.hs.circuits.get circuitID with
      | none => { t with hs := t.hs.emit (.destroy conn circuitID destroyReasonProtocol) }
      | some _ => ORTables.closeCircuit
          { t with hs := t.hs.emit (.destroy conn circuitID reason) } circuitID) p
    split
    · exact hemit _
    · exact (hemit reason).trans (.closeCircuit h.emit (hemit reason).circuit.live hm)
  | destroy circuitID => exact .closeCircuit h hp hm
  | ignored => exact .refl hp

lemma handleIncomingCell_inv {m : ClientCell} : HsInv (t.handleIncomingCell verify conn m).hs := by
  cases m with
  | create2 circuitID circNonce => exact h.create2 _ _
  | relay env answer circuitID streamID cmd data =>
    have hhs : HsInv (HsState.relayCell verify t.hs env circuitID conn streamID cmd data) :=
      h.step verify (.relay env circuitID conn streamID cmd data)
    change HsInv (t.relayCell verify env answer conn circuitID streamID cmd data).hs
    unfold relayCell
    split
    · split
      · exact h
      split
      · exact h
      split
      · exact h
      · exact hhs
    · exact hhs
  | violation circuitID reason =>
    change HsInv (hs (match t.hs.circuits.get circuitID with
      | none => { t with hs := t.hs.emit (.destroy conn circuitID destroyReasonProtocol) }
      | some _ => closeCircuit
          { t with hs := t.hs.emit (.destroy conn circuitID reason) } circuitID))
    split
    · exact h.emit
    · exact h.emit.closeCircuit _
  | destroy circuitID => exact h.closeCircuit _
  | ignored => exact h

end ORTables

/-! ### Whole runs -/

namespace ORListener

variable {verify : Bytes → Bytes → Option String} {l l' : ORListener} {p : CircPtr}

/-- The event concerns the circuit.  That a connection comes or goes concerns none. -/
def Concerns (p : CircPtr) (l : ORListener) : ORStep → Prop
  | .cell _ m => l.tables.Concerns p m
  | .extended circuitID => l.tables.hs.Concerns p (.extended circuitID)
  | .nextHopDestroy circuitID => l.tables.hs.Concerns p (.close circuitID)
  | .pumpEnds sp _ => (l.tables.exits.pumps.get sp).any (fun key => key.1 = (l.tables.hs.heap p).circuitID) = true
  | .stop => True
  | .accept _ _ | .handshakeFails _ | .linked _ | .leave _ => False

instance decidableConcerns (l : ORListener) : (e : ORStep) → Decidable (Concerns p l e)
  | .cell _ m => inferInstanceAs (Decidable (l.tables.Concerns p m))
  | .extended circuitID => inferInstanceAs (Decidable (l.tables.hs.Concerns p (.extended circuitID)))
  | .nextHopDestroy circuitID =>
    inferInstanceAs (Decidable (l.tables.hs.Concerns p (.close circuitID)))
  | .pumpEnds _ _ => inferInstanceAs (Decidable (_ = true))
  | .stop => isTrue trivial
  | .accept _ _ | .handshakeFails _ | .linked _ | .leave _ => isFalse id

/-- The tables belong together until the listener stops; then they are empty. -/
structure Inv (l : ORListener) : Prop where
  running : l.stopped = false → HsInv l.tables.hs
  stopped : l.stopped = true → l.tables.hs.circuits = .empty

lemma Inv.tables_eq (h : l.Inv) (htables : l'.tables = l.tables) (hstop : l'.stopped = l.stopped) : l'.Inv :=
  ⟨fun hs => htables ▸ h.running (hstop ▸ hs), fun hs => htables ▸ h.stopped (hstop ▸ hs)⟩

lemma Inv.running_of (h : HsInv l.tables.hs) (hs : l.stopped = false) : l.Inv :=
  ⟨fun _ => h, fun hstop => absurd (hs.symm.trans hstop) (by decide)⟩

lemma Inv.step (h : l.Inv) {e : ORStep} (hstep : l.step verify e = some l') : l'.Inv := by
  cases e with
  | accept addr allowed =>
    obtain ⟨-, hstep⟩ := ite_none_left_eq_some.1 hstep
    split at hstep
    · cases hstep
      exact h
    split at hstep
    · cases hstep
      exact h
    · cases hstep
      exact h.tables_eq rfl rfl
  | handshakeFails c | linked c | leave c =>
    obtain ⟨-, ⟨⟩⟩ := ite_none_right_eq_some.1 hstep
    exact h.tables_eq rfl rfl
  | cell c m =>
    obtain ⟨⟨-, hs⟩, ⟨⟩⟩ := ite_none_right_eq_some.1 hstep
    exact .running_of (handleIncomingCell_inv (h.running hs)) hs
  | extended circuitID =>
    obtain ⟨hs, ⟨⟩⟩ := ite_none_left_eq_some.1 hstep
    exact .running_of ((h.running (Bool.eq_false_iff.2 hs)).extend _) (Bool.eq_false_iff.2 hs)
  | nextHopDestroy circuitID =>
    obtain ⟨hs, ⟨⟩⟩ := ite_none_left_eq_some.1 hstep
    exact .running_of ((h.running (Bool.eq_false_iff.2 hs)).closeCircuit _) (Bool.eq_false_iff.2 hs)
  | pumpEnds sp reason =>
    cases hstep
    exact ⟨h.running, h.stopped⟩
  | stop =>
    obtain ⟨-, ⟨⟩⟩ := ite_none_left_eq_some.1 hstep
    exact ⟨nofun, fun _ => rfl⟩

lemma Inv.of_live (h : l.Inv) (hp : l.tables.hs.Live p) : HsInv l.tables.hs := by
  refine h.running (Bool.eq_false_iff.2 fun hs => ?_)
  rw [HsState.Live, h.stopped hs] at hp
  cases hp

lemma kept_step (h : l.Inv) (hp : l.tables.hs.Live p) {e : ORStep} (he : ¬ l.Concerns p e)
    (hstep : l.step verify e = some l') : ORTables.Kept l.tables l'.tables p := by
  have hinv := h.of_live hp
  cases e with
  | accept addr allowed =>
    obtain ⟨-, hstep⟩ := ite_none_left_eq_some.1 hstep
    split at hstep
    · cases hstep
      exact .refl hp
    split at hstep
    · cases hstep
      exact .refl hp
    · cases hstep
      exact .refl hp
  | handshakeFails c | linked c | leave c =>
    obtain ⟨-, ⟨⟩⟩ := ite_none_right_eq_some.1 hstep
    exact .refl hp
  | cell c m =>
    obtain ⟨-, ⟨⟩⟩ := ite_none_right_eq_some.1 hstep
    exact .handleIncomingCell hinv hp he
  | extended circuitID =>
    obtain ⟨-, ⟨⟩⟩ := ite_none_left_eq_some.1 hstep
    exact .of_hs (.extend hp hinv he)
  | nextHopDestroy circuitID =>
    obtain ⟨-, ⟨⟩⟩ := ite_none_left_eq_some.1 hstep
    exact .closeCircuit hinv hp he
  | pumpEnds sp reason =>
    cases hstep
    refine .of_exits hp fun key hkey => get_pumpEnds (fun key' hpump heq => he ?_)
    change (l.tables.exits.pumps.get sp).any _ = true
    rw [hpump]
    exact decide_eq_true (heq ▸ hkey)
  | stop => exact absurd trivial he

def initial (maxConnections gateMax : ℕ) : ORListener :=
  { maxConnections, tables := { exits := { gateMax } } }

lemma Inv.initial (maxConnections gateMax : ℕ) : (initial maxConnections gateMax).Inv :=
  .running_of HsInv.initial rfl

variable {events : List ORStep}

lemma Inv.run (h : l.Inv) (hrun : run (ORListener.step verify) l events = some l') : l'.Inv :=
  run_inv (fun _ _ _ h _ hstep => h.step hstep) h (RunMeets.of_forall (fun _ _ => trivial) l events) hrun

lemma kept_run (h : l.Inv) (hp : l.tables.hs.Live p)
    (hquiet : RunMeets (step verify) (fun l e => ¬ l.Concerns p e) l events)
    (hrun : run (step verify) l events = some l') :
    ORTables.Kept l.tables l'.tables p := by
  have hone : ∀ (l1 : ORListener) (e : ORStep) (l2 : ORListener),
      l1.Inv ∧ ORTables.Kept l.tables l1.tables p → ¬ l1.Concerns p e →
        l1.step verify e = some l2 → l2.Inv ∧ ORTables.Kept l.tables l2.tables p := by
    rintro l1 e l2 ⟨hinv, hkept⟩ he hstep
    exact ⟨hinv.step hstep, hkept.trans (kept_step hinv hkept.circuit.live he hstep)⟩
  exact (run_inv hone ⟨h, .refl hp⟩ hquiet hrun).2

/-- **Circuits outlive their connection.**  When `handleConnection` returns, the tables stay as they
are; a circuit that no event concerns stays in the table, with its fields, its key, its next hop
and its streams, whether or not its connection is still there; and `CloseAll` empties the tables. -/
theorem circuits_outlive_connection (verify : Bytes → Bytes → Option String)
    (maxConnections gateMax : ℕ) (events : List ORStep) (l : ORListener)
    (hrun : run (step verify) (initial maxConnections gateMax) events = some l) :
    (∀ c l', step verify l (.leave c) = some l' → l'.tables = l.tables) ∧
    (∀ p later l', l.tables.hs.Live p →
      RunMeets (step verify) (fun l e => ¬ l.Concerns p e) l later →
      run (step verify) l later = some l' → ORTables.Kept l.tables l'.tables p) ∧
    ∀ l', step verify l .stop = some l' → l'.tables.Empty := by
  have hinv := (Inv.initial maxConnections gateMax).run hrun
  refine ⟨fun c l' hstep => ?_, fun p later l' hp hquiet hlater => kept_run hinv hp hquiet hlater, fun l' hstep => ?_⟩
  · obtain ⟨-, ⟨⟩⟩ := ite_none_right_eq_some.1 hstep
    rfl
  · obtain ⟨-, ⟨⟩⟩ := ite_none_left_eq_some.1 hstep
    exact ⟨rfl, rfl, rfl, rfl, streams_foldl_teardown _ _⟩

/-- Four circuits of one connection: an introduction point, one that is extended, one with a
stream and one that waits with a cookie. -/
def fourCircuits : List ORStep :=
  [.accept [1] true, .linked 0, .cell 0 (.create2 1 (zeros 20)), .cell 0 (.create2 2 (zeros 20)),
    .cell 0 (.create2 3 (zeros 20)), .cell 0 (.create2 4 (zeros 20)),
    .cell 0 (.relay ⟨0, none⟩ (.refused 1) 1 0 relayEstablishIntro (zeros 35)),
    .extended 2,
    .cell 0 (.relay ⟨0, none⟩ (.opened true) 3 7 relayBegin []),
    .cell 0 (.relay ⟨0, none⟩ (.refused 1) 4 0 relayEstablishRendezvous (zeros 20))]

/-- The connection goes, and another one brings cells of its own. -/
def goneAndBusy : List ORStep :=
  [.leave 0, .accept [2] true, .linked 1, .cell 1 (.create2 5 (zeros 20)),
    .cell 1 (.relay ⟨1, none⟩ (.opened true) 5 7 relayBegin []), .cell 1 (.destroy 5)]

theorem circuits_outlive_connection_four :
    ∃ l l', run (step fun _ _ => none) (initial 10 10) fourCircuits = some l ∧
      l.tables.hs.Live 2 ∧ l.tables.owner 2 = 0 ∧
      run (step fun _ _ => none) l goneAndBusy = some l' ∧ l'.phase 0 = some .returned ∧
      ORTables.Kept l.tables l'.tables 2 := by
  obtain ⟨l, hl, hlive, howner, hquiet, l', hl', hphase⟩ :
      ∃ l, run (step fun _ _ => none) (initial 10 10) fourCircuits = some l ∧
        l.tables.hs.Live 2 ∧ l.tables.owner 2 = 0 ∧
        RunMeets (step fun _ _ => none) (fun l e => ¬ l.Concerns 2 e) l goneAndBusy ∧
        ∃ l', run (step fun _ _ => none) l goneAndBusy = some l' ∧ l'.phase 0 = some .returned := by decide +kernel
  exact ⟨l, l', hl, hlive, howner, hl', hphase,
    (circuits_outlive_connection _ 10 10 fourCircuits l hl).2.1 2 goneAndBusy l' hlive hquiet hl'⟩

/-- After `handleConnection` has returned, the four circuits are in the table, with the stream, the
registrations and the next hop. -/
theorem circuits_left_behind :
    ∃ l, run (step fun _ _ => none) (initial 10 10) (fourCircuits ++ [.leave 0]) = some l ∧
      l.phase 0 = some .returned ∧
      (∀ p ∈ range 4, l.tables.owner p = 0 ∧ l.tables.hs.Live p) ∧
      l.tables.hs.extended.get 2 = some () ∧
      (l.tables.exits.streams.get (3, 7)).isSome = true ∧
      (l.tables.hs.introByAuth.get (hexEncode (zeros 32))).map HsRoleSlot.circ = some 0 ∧
      (l.tables.hs.rendByCookie.get (hexEncode (zeros 20))).map HsRoleSlot.circ = some 3 := by
  decide +kernel

end ORListener

end GoTor.Relay

import GoTor.Lib.Bytes
import GoTor.Lib.Run
import GoTor.Lib.Table

/-!
# Outbound circuit IDs

A relay that extends a circuit draws the circuit ID for the next hop at random and looks at no
other ID in use.  Cells from the next hop are given to the extension whose next-hop address and
circuit ID they name, whatever connection they came on, and from it to the client circuit that
has its circuit ID then.  The extensions are numbered; every one belongs to the circuit whose
EXTEND2 cell it was.  Sections of the extender, of the reader of each connection and of
closing and truncating interleave.
-/

namespace GoTor.Relay

open GoTor.Lib Function Table Option

/-- `newOutboundCircID`, for the four bytes drawn or a failure of the random source. -/
def newOutboundCircID : Option UInt32 → UInt32
  | none => 0x80000001
  | some b => if b ||| 0x80000000 = 0x80000000 then 0x80000001 else b ||| 0x80000000

abbrev NextConnPtr := ℕ
abbrev ExtPtr := ℕ

abbrev ClientPtr := ℕ

/-- An EXTEND2 request from its draw on: `HandleExtend2`, later the `ExtendedCircuit`. -/
structure Extension where
  /-- `ClientCircuitID`. -/
  client : UInt32
  /-- The circuit whose EXTEND2 cell it was. -/
  owner : ClientPtr
  conn : NextConnPtr
  /-- `NextHopCircuitID`. -/
  id : UInt32
  deriving DecidableEq

inductive ExtPhase
  /-- CREATE2 has been written. -/
  | waiting
  /-- CREATED2 has come and the client circuit was found. -/
  | checked
  | ended
  deriving DecidableEq

/-- A cell from a next hop, as `DeliverFromNextHop` tells them apart. -/
inductive BackwardKind
  | relay
  | destroy
  | other
  deriving DecidableEq

inductive DeliveryStage
  /-- The extension has been found. -/
  | found
  /-- A DESTROY cell has been passed on. -/
  | passed
  /-- Its extension has been taken out of the table. -/
  | unmapped
  deriving DecidableEq

/-- A cell of the outbound circuit of `origin` in `DeliverFromNextHop`. -/
structure Delivery where
  origin : ExtPtr
  found : ExtPtr
  kind : BackwardKind
  stage : DeliveryStage := .found
  deriving DecidableEq

/-- A cell of the outbound circuit of `origin` passed to a client circuit. -/
structure ForwardedTo where
  origin : ExtPtr
  reached : ClientPtr
  deriving DecidableEq

structure ExtendNet where
  circuits : Table UInt32 ClientPtr := .empty
  freshClient : ClientPtr := 0
  exts : ExtPtr → Extension := fun _ => ⟨0, 0, 0, 0⟩
  fresh : ExtPtr := 0
  phase : ExtPtr → ExtPhase := fun _ => .ended
  /-- `ForwardingHandler.extended`. -/
  extended : Table UInt32 ExtPtr := .empty
  /-- The readers that are delivering a cell, by connection. -/
  readers : Table NextConnPtr Delivery := .empty
  /-- The next hop has no cell of this outbound circuit left to send. -/
  silent : ExtPtr → Bool := fun _ => false
  forwards : List ForwardedTo := []

inductive ExtendStep
  | create (client : UInt32)
  /-- EXTEND2, up to the CREATE2 cell on this connection. -/
  | extend (client : UInt32) (conn : NextConnPtr) (draw : Option UInt32)
  /-- CREATED2 is accepted, and the circuit is looked up. -/
  | created (x : ExtPtr)
  | fail (x : ExtPtr)
  | register (x : ExtPtr)
  /-- `handleTruncate` and `HandleDestroy`, the last part of `CloseCircuit`. -/
  | unmap (client : UInt32)
  /-- The first part of `CloseCircuit`. -/
  | close (client : UInt32)
  /-- The reader of the connection of `x` gets a cell of its outbound circuit and finds an
  extension with the address and circuit ID. -/
  | arrive (x : ExtPtr) (kind : BackwardKind) (found : ExtPtr)
  /-- `forwardCellToClient` of the reader of a connection. -/
  | forward (conn : NextConnPtr)
  /-- After a DESTROY cell. -/
  | readerUnmap (conn : NextConnPtr)
  | readerClose (conn : NextConnPtr)
  /-- The next hop has sent its last cell of this outbound circuit. -/
  | silence (x : ExtPtr)
  deriving DecidableEq

namespace ExtendNet

variable (addrOf : NextConnPtr → Bytes) (s : ExtendNet) (x : ExtPtr)

def Registered : Prop := ∃ e ∈ s.extended.entries, e.2 = x

/-- The extension is under way, registered, or a cell is being delivered to it. -/
def Busy : Prop :=
  s.phase x ≠ .ended ∨ s.Registered x ∨ ∃ e ∈ s.readers.entries, e.2.origin = x ∨ e.2.found = x

instance : Decidable (s.Registered x) :=
  inferInstanceAs (Decidable (∃ e ∈ s.extended.entries, e.2 = x))

instance : Decidable (s.Busy x) := inferInstanceAs (Decidable (_ ∨ _ ∨ _))

/-- The condition of the loop over `extended` in `DeliverFromNextHop`. -/
def Names (e : ExtPtr) : Prop :=
  addrOf (s.exts e).conn = addrOf (s.exts x).conn ∧ (s.exts e).id = (s.exts x).id

instance (e : ExtPtr) : Decidable (s.Names addrOf x e) := inferInstanceAs (Decidable (_ ∧ _))

def setPhase (p : ExtPhase) : ExtendNet :=
  { s with phase := update s.phase x p }

def register : ExtendNet :=
  match s.extended.get (s.exts x).client with
  | some _ => s.setPhase x .ended
  | none => { s.setPhase x .ended with extended := s.extended.set (s.exts x).client x }

/-- The circuit a cell goes to: for a relay cell the one with the circuit ID now, whose layer
it gets; any other cell is written as it is to the connection of the extension. -/
def target (d : Delivery) : Option ClientPtr :=
  match d.kind with
  | .relay => s.circuits.get (s.exts d.found).client
  | _ => some (s.exts d.found).owner

def forward (conn : NextConnPtr) (d : Delivery) : ExtendNet :=
  { s with
    forwards := s.forwards ++ (s.target d).toList.map fun p => ⟨d.origin, p⟩
    readers := match d.kind with
      | .destroy => s.readers.set conn { d with stage := .passed }
      | _ => s.readers.erase conn }

def step (s : ExtendNet) : ExtendStep → Option ExtendNet
  | .create client =>
    match s.circuits.get client with
    | some _ => none
    | none => some { s with
        circuits := s.circuits.set client s.freshClient, freshClient := s.freshClient + 1 }
  | .extend client conn draw =>
    (s.circuits.get client).map fun owner =>
      { s with
        exts := update s.exts s.fresh ⟨client, owner, conn, newOutboundCircID draw⟩
        phase := update s.phase s.fresh .waiting
        silent := update s.silent s.fresh false
        fresh := s.fresh + 1 }
  | .created x =>
    if s.phase x = .waiting ∧ (s.circuits.get (s.exts x).client).isSome then
      some (s.setPhase x .checked)
    else none
  | .fail x => some (s.setPhase x .ended)
  | .register x => if s.phase x = .checked then some (s.register x) else none
  | .unmap client => some { s with extended := s.extended.erase client }
  | .close client => some { s with circuits := s.circuits.erase client }
  | .arrive x kind found =>
    if x < s.fresh ∧ s.silent x = false ∧ (s.readers.get (s.exts x).conn).isNone ∧
        s.Registered found ∧ s.Names addrOf x found then
      some { s with readers := s.readers.set (s.exts x).conn ⟨x, found, kind, .found⟩ }
    else none
  | .forward conn =>
    match s.readers.get conn with
    | some d => if d.stage = .found then some (s.forward conn d) else none
    | none => none
  | .readerUnmap conn =>
    match s.readers.get conn with
    | some d =>
      if d.stage = .passed then some { s with
        extended := s.extended.erase (s.exts d.found).client
        readers := s.readers.set conn { d with stage := .unmapped } }
      else none
    | none => none
  | .readerClose conn =>
    match s.readers.get conn with
    | some d =>
      if d.stage = .unmapped then some { s with
        circuits := s.circuits.erase (s.exts d.found).client, readers := s.readers.erase conn }
      else none
    | none => none
  | .silence x =>
    if s.Busy x then none else some { s with silent := update s.silent x true }

/-- **Extensions are kept apart**: no two registered ones share connection and outbound circuit ID,
and the cells of an outbound circuit were passed to the circuit whose EXTEND2 created it. -/
structure Apart (s : ExtendNet) : Prop where
  ids : ∀ x y, s.Registered x → s.Registered y → (s.exts x).conn = (s.exts y).conn →
    (s.exts x).id = (s.exts y).id → x = y
  forwards : ∀ f ∈ s.forwards, f.reached = (s.exts f.origin).owner

/-- An outbound ID is drawn that no other extension to the same address has whose next hop still
has cells to send; a client circuit ID is not used again while an extension with it is
busy. -/
def DrawnApart (s : ExtendNet) : ExtendStep → Prop
  | .extend _ conn draw => ∀ y < s.fresh, s.silent y = false →
      addrOf (s.exts y).conn = addrOf conn → (s.exts y).id ≠ newOutboundCircID draw
  | .create client => ∀ y < s.fresh, (s.exts y).client = client → ¬ s.Busy y
  | _ => True

instance decidableDrawnApart (s : ExtendNet) : (e : ExtendStep) → Decidable (s.DrawnApart addrOf e)
  | .extend _ conn draw => inferInstanceAs (Decidable (∀ y < s.fresh, s.silent y = false →
      addrOf (s.exts y).conn = addrOf conn → (s.exts y).id ≠ newOutboundCircID draw))
  | .create client =>
    inferInstanceAs (Decidable (∀ y < s.fresh, (s.exts y).client = client → ¬ s.Busy y))
  | .created _ | .fail _ | .register _ | .unmap _ | .close _ | .arrive _ _ _ | .forward _
  | .readerUnmap _ | .readerClose _ | .silence _ => isTrue trivial

/-! ### One step -/

/-- Extensions that may still get cells differ in address or ID, and the circuit with the
circuit ID of a busy one is its own. -/
structure Owned (s : ExtendNet) : Prop where
  known : ∀ x, s.Busy x → x < s.fresh ∧ s.silent x = false
  unique : ∀ x y, x < s.fresh → y < s.fresh → s.silent x = false → s.silent y = false → s.Names addrOf x y → x = y
  owner : ∀ x, s.Busy x → ∀ p, s.circuits.get (s.exts x).client = some p → p = (s.exts x).owner
  origin : ∀ e ∈ s.readers.entries, e.2.origin = e.2.found
  forwards : ∀ f ∈ s.forwards, f.origin < s.fresh ∧ f.reached = (s.exts f.origin).owner

namespace Owned

variable {addrOf} {s} {s' : ExtendNet}

lemma init : Owned addrOf {} where
  known x h := by
    rcases h with h | ⟨e, he, -⟩ | ⟨e, he, -⟩
    · exact absurd rfl h
    · cases he
    · cases he
  unique x y hx := absurd hx (Nat.not_lt_zero x)
  owner x _ p hp := by cases hp
  origin _ he := by cases he
  forwards _ hf := by cases hf

variable (h : Owned addrOf s)
include h

lemma calm (hexts : s'.exts = s.exts) (hfresh : s'.fresh = s.fresh) (hsilent : s'.silent = s.silent)
    (hcircuits : ∀ k p, s'.circuits.get k = some p → s.circuits.get k = some p)
    (hbusy : ∀ x, s'.Busy x → s.Busy x) (horigin : ∀ e ∈ s'.readers.entries, e.2.origin = e.2.found)
    (hforwards : ∀ f ∈ s'.forwards, f ∈ s.forwards ∨
      f.origin < s.fresh ∧ f.reached = (s.exts f.origin).owner) : Owned addrOf s' where
  known x hx := by
    rw [hfresh, hsilent]
    exact h.known x (hbusy x hx)
  unique x y := by
    simp only [Names, hexts, hfresh, hsilent]
    exact h.unique x y
  owner x hx p hp := by
    rw [hexts] at hp ⊢
    exact h.owner x (hbusy x hx) p (hcircuits _ _ hp)
  origin := horigin
  forwards f hf := by
    rw [hexts, hfresh]
    exact (hforwards f hf).elim (h.forwards f) id

variable {client : UInt32}

lemma create (hfree : ∀ y < s.fresh, (s.exts y).client = client → ¬ s.Busy y) : Owned addrOf { s with
      circuits := s.circuits.set client s.freshClient, freshClient := s.freshClient + 1 } :=
  { h with
    owner x hx p hp := by
      have hne : (s.exts x).client ≠ client := fun hc => hfree x (h.known x hx).1 hc hx
      refine h.owner x hx p ?_
      rwa [get_set_of_ne _ hne] at hp }

variable {conn : NextConnPtr}

lemma extend {id : UInt32} {owner : ClientPtr} (howner : s.circuits.get client = some owner)
    (hnew : ∀ y < s.fresh, s.silent y = false → addrOf (s.exts y).conn = addrOf conn → (s.exts y).id ≠ id) :
    Owned addrOf { s with
      exts := update s.exts s.fresh ⟨client, owner, conn, id⟩
      phase := update s.phase s.fresh .waiting
      silent := update s.silent s.fresh false
      fresh := s.fresh + 1 } := by
  set new : Extension := ⟨client, owner, conn, id⟩
  have hold : ∀ x, x < s.fresh → update s.exts s.fresh new x = s.exts x := fun x hx =>
    update_of_ne (Nat.ne_of_lt hx) _ _
  have hquiet : ∀ x, x < s.fresh → update s.silent s.fresh false x = s.silent x :=
    fun x hx => update_of_ne (Nat.ne_of_lt hx) _ _
  have hbusy : ∀ x, x ≠ s.fresh → ExtendNet.Busy { s with
      exts := update s.exts s.fresh new
      phase := update s.phase s.fresh .waiting
      fresh := s.fresh + 1 } x → s.Busy x := by
    intro x hx hb
    rcases hb with hb | hb
    · refine .inl ?_
      have hb : update s.phase s.fresh .waiting x ≠ .ended := hb
      rwa [update_of_ne hx] at hb
    · exact .inr hb
  refine ⟨fun x hx => ?_, fun x y hx hy hsx hsy hnames => ?_, fun x hx p hp => ?_, h.origin, fun f hf => ?_⟩
  · rcases eq_or_ne x s.fresh with rfl | hne
    · exact ⟨Nat.lt_succ_self _, update_self _ _ _⟩
    · obtain ⟨hlt, hs⟩ := h.known x (hbusy x hne hx)
      exact ⟨Nat.lt_succ_of_lt hlt, (hquiet x hlt).trans hs⟩
  · -- two old extensions, or the new one and an old one
    obtain ⟨haddr, hid⟩ := hnames
    dsimp only at hx hy hsx hsy haddr hid
    rcases Nat.lt_succ_iff_lt_or_eq.1 hx with hx | rfl <;> rcases Nat.lt_succ_iff_lt_or_eq.1 hy with hy | hy
    · rw [hold x hx, hold y hy] at haddr hid
      exact h.unique x y hx hy ((hquiet x hx).symm.trans hsx) ((hquiet y hy).symm.trans hsy) ⟨haddr, hid⟩
    · subst hy
      rw [hold x hx, update_self] at haddr hid
      exact absurd hid.symm (hnew x hx ((hquiet x hx).symm.trans hsx) haddr.symm)
    · rw [hold y hy, update_self] at haddr hid
      exact absurd hid (hnew y hy ((hquiet y hy).symm.trans hsy) haddr)
    · exact hy.symm
  · dsimp only at hp ⊢
    rcases eq_or_ne x s.fresh with rfl | hne
    · rw [update_self] at hp ⊢
      exact some.inj (hp.symm.trans howner)
    · have hb := hbusy x hne hx
      rw [hold x (h.known x hb).1] at hp ⊢
      exact h.owner x hb p hp
  · obtain ⟨hlt, hreached⟩ := h.forwards f hf
    refine ⟨Nat.lt_succ_of_lt hlt, ?_⟩
    dsimp only
    rw [hold _ hlt]
    exact hreached

variable {x : ExtPtr}

lemma setPhase {p : ExtPhase}
    (hp : p = .ended ∨ s.phase x ≠ .ended) : Owned addrOf (s.setPhase x p) := by
  refine h.calm rfl rfl rfl (fun _ _ hq => hq) (fun y hy => ?_) h.origin fun f hf => .inl hf
  rcases hy with hy | hy
  · have hy : update s.phase x p y ≠ .ended := hy
    rcases eq_or_ne y x with rfl | hne
    · rw [update_self] at hy
      exact .inl (hp.resolve_left hy)
    · rw [update_of_ne hne] at hy
      exact .inl hy
  · exact .inr hy

lemma register (hx : s.phase x = .checked) : Owned addrOf (s.register x) := by
  have hbusy : s.Busy x := .inl (by simp [hx])
  have hover := h.setPhase (p := .ended) (x := x) (.inl rfl)
  unfold ExtendNet.register
  split
  · exact hover
  refine h.calm rfl rfl rfl (fun _ _ hq => hq) (fun y hy => ?_) h.origin fun f hf => .inl hf
  rcases hy with hy | ⟨e, he, rfl⟩ | hy
  · by_cases hyx : y = x
    · exact hyx ▸ hbusy
    · have hy : update s.phase x .ended y ≠ .ended := hy
      rw [update_of_ne hyx] at hy
      exact .inl hy
  · rcases mem_set he with rfl | he
    · exact hbusy
    · exact .inr (.inl ⟨e, he, rfl⟩)
  · exact .inr (.inr hy)

lemma unmap : Owned addrOf { s with extended := s.extended.erase client } := by
  refine h.calm rfl rfl rfl (fun _ _ hq => hq) (fun y hy => ?_) h.origin fun f hf => .inl hf
  rcases hy with hy | ⟨e, he, rfl⟩ | hy
  · exact .inl hy
  · exact .inr (.inl ⟨e, mem_of_mem_erase he, rfl⟩)
  · exact .inr (.inr hy)

omit h

lemma get_of_erase {k : UInt32} {p : ClientPtr}
    (hp : (s.circuits.erase client).get k = some p) : s.circuits.get k = some p := by
  rw [get_erase] at hp
  exact (ite_none_left_eq_some.1 hp).2

include h

lemma close : Owned addrOf { s with circuits := s.circuits.erase client } :=
  h.calm rfl rfl rfl (fun _ _ hq => get_of_erase hq) (fun _ hy => hy) h.origin fun _ hf => .inl hf

lemma arrive {found : ExtPtr} {kind : BackwardKind} (hx : x < s.fresh)
    (hsilent : s.silent x = false) (hreg : s.Registered found) (hnames : s.Names addrOf x found) :
    Owned addrOf { s with
      readers := s.readers.set (s.exts x).conn ⟨x, found, kind, .found⟩ } := by
  have hbusy : s.Busy found := .inr (.inl hreg)
  obtain ⟨hlt, hs⟩ := h.known found hbusy
  obtain rfl : x = found := h.unique x found hx hlt hsilent hs hnames
  refine h.calm rfl rfl rfl (fun _ _ hq => hq) (fun y hy => ?_) (fun e he => ?_) fun f hf => .inl hf
  · rcases hy with hy | hy | ⟨e, he, hy⟩
    · exact .inl hy
    · exact .inr (.inl hy)
    · rcases mem_set he with rfl | he
      · exact hy.elim (fun hy => hy ▸ hbusy) fun hy => hy ▸ hbusy
      · exact .inr (.inr ⟨e, he, hy⟩)
  · rcases mem_set he with rfl | he
    · rfl
    · exact h.origin e he

omit h

variable {d : Delivery}

lemma mem_readers_of_stage (hd : s.readers.get conn = some d) {stage : DeliveryStage}
    {e : NextConnPtr × Delivery} (he : e ∈ (s.readers.set conn { d with stage }).entries) :
    ∃ e' ∈ s.readers.entries, e'.2.origin = e.2.origin ∧ e'.2.found = e.2.found := by
  rcases mem_set he with rfl | he
  · exact ⟨(conn, d), (get_eq_some_iff _).1 hd, rfl, rfl⟩
  · exact ⟨e, he, rfl, rfl⟩

include h

lemma forward (hd : s.readers.get conn = some d) : Owned addrOf (s.forward conn d) := by
  have hmem : (conn, d) ∈ s.readers.entries := (get_eq_some_iff _).1 hd
  have horigin : d.origin = d.found := h.origin _ hmem
  have hbusy : s.Busy d.found := .inr (.inr ⟨_, hmem, .inr rfl⟩)
  have hreaders : ∀ e ∈ (s.forward conn d).readers.entries,
      ∃ e' ∈ s.readers.entries, e'.2.origin = e.2.origin ∧ e'.2.found = e.2.found := by
    intro e he
    unfold ExtendNet.forward at he
    split at he
    · exact mem_readers_of_stage hd he
    · exact ⟨e, mem_of_mem_erase he, rfl, rfl⟩
  refine h.calm rfl rfl rfl (fun _ _ hq => hq) (fun y hy => ?_) (fun e he => ?_) fun f hf => ?_
  · rcases hy with hy | hy | ⟨e, he, hy⟩
    · exact .inl hy
    · exact .inr (.inl hy)
    · obtain ⟨e', he', ho, hf⟩ := hreaders e he
      exact .inr (.inr ⟨e', he', hy.imp ho.trans hf.trans⟩)
  · obtain ⟨e', he', ho, hf⟩ := hreaders e he
    rw [← ho, ← hf]
    exact h.origin e' he'
  rcases List.mem_append.1 hf with hf | hf
  · exact .inl hf
  obtain ⟨p, hp, rfl⟩ := List.mem_map.1 hf
  refine .inr ⟨horigin ▸ (h.known _ hbusy).1, ?_⟩
  rw [horigin]
  have hp : s.target d = some p := mem_toList.1 hp
  unfold target at hp
  split at hp
  · exact h.owner _ hbusy p hp
  · exact (some.inj hp).symm

lemma readerUnmap (hd : s.readers.get conn = some d) : Owned addrOf { s with
      extended := s.extended.erase (s.exts d.found).client
      readers := s.readers.set conn { d with stage := .unmapped } } := by
  refine h.calm rfl rfl rfl (fun _ _ hq => hq) (fun y hy => ?_) (fun e he => ?_) fun f hf => .inl hf
  · rcases hy with hy | ⟨e, he, rfl⟩ | ⟨e, he, hy⟩
    · exact .inl hy
    · exact .inr (.inl ⟨e, mem_of_mem_erase he, rfl⟩)
    · obtain ⟨e', he', ho, hf⟩ := mem_readers_of_stage hd he
      exact .inr (.inr ⟨e', he', hy.imp ho.trans hf.trans⟩)
  · obtain ⟨e', he', ho, hf⟩ := mem_readers_of_stage hd he
    rw [← ho, ← hf]
    exact h.origin e' he'

lemma readerClose :
    Owned addrOf { s with
      circuits := s.circuits.erase client, readers := s.readers.erase conn } := by
  refine h.calm rfl rfl rfl (fun _ _ hq => get_of_erase hq) (fun y hy => ?_)
    (fun e he => h.origin e (mem_of_mem_erase he)) fun f hf => .inl hf
  rcases hy with hy | hy | ⟨e, he, hy⟩
  · exact .inl hy
  · exact .inr (.inl hy)
  · exact .inr (.inr ⟨e, mem_of_mem_erase he, hy⟩)

lemma silence (hx : ¬ s.Busy x) : Owned addrOf { s with silent := update s.silent x true } := by
  have hfalse : ∀ y, update s.silent x true y = false → s.silent y = false := by
    intro y hy
    rcases eq_or_ne y x with rfl | hne
    · rw [update_self] at hy
      cases hy
    · rwa [update_of_ne hne] at hy
  refine ⟨fun y hy => ?_, fun y z hy hz hsy hsz => ?_, h.owner, h.origin, h.forwards⟩
  · have hy : s.Busy y := hy
    have hne : y ≠ x := fun heq => hx (heq ▸ hy)
    obtain ⟨hlt, hs⟩ := h.known y hy
    exact ⟨hlt, (update_of_ne hne _ _).trans hs⟩
  · exact h.unique y z hy hz (hfalse y hsy) (hfalse z hsz)

lemma step {e : ExtendStep} (hgood : s.DrawnApart addrOf e)
    (hstep : s.step addrOf e = some s') : Owned addrOf s' := by
  cases e with
  | create client =>
    simp only [ExtendNet.step] at hstep
    split at hstep
    · cases hstep
    · cases hstep
      exact h.create hgood
  | extend client conn draw =>
    obtain ⟨owner, howner, rfl⟩ := map_eq_some_iff.1 hstep
    exact h.extend howner hgood
  | created x =>
    obtain ⟨⟨hx, -⟩, ⟨⟩⟩ := ite_none_right_eq_some.1 hstep
    exact h.setPhase (.inr (by simp [hx]))
  | fail x =>
    cases hstep
    exact h.setPhase (.inl rfl)
  | register x =>
    obtain ⟨hx, ⟨⟩⟩ := ite_none_right_eq_some.1 hstep
    exact h.register hx
  | unmap client =>
    cases hstep
    exact h.unmap
  | close client =>
    cases hstep
    exact h.close
  | arrive x kind found =>
    obtain ⟨⟨hx, hsilent, -, hreg, hnames⟩, ⟨⟩⟩ := ite_none_right_eq_some.1 hstep
    exact h.arrive hx hsilent hreg hnames
  | forward conn =>
    simp only [ExtendNet.step] at hstep
    split at hstep
    next d hd =>
      obtain ⟨-, ⟨⟩⟩ := ite_none_right_eq_some.1 hstep
      exact h.forward hd
    · cases hstep
  | readerUnmap conn =>
    simp only [ExtendNet.step] at hstep
    split at hstep
    next d hd =>
      obtain ⟨-, ⟨⟩⟩ := ite_none_right_eq_some.1 hstep
      exact h.readerUnmap hd
    · cases hstep
  | readerClose conn =>
    simp only [ExtendNet.step] at hstep
    split at hstep
    next d hd =>
      obtain ⟨-, ⟨⟩⟩ := ite_none_right_eq_some.1 hstep
      exact h.readerClose
    · cases hstep
  | silence x =>
    obtain ⟨hx, ⟨⟩⟩ := ite_none_left_eq_some.1 hstep
    exact h.silence hx

lemma apart : s.Apart where
  ids x y hx hy hconn hid := by
    obtain ⟨hltx, hsx⟩ := h.known x (.inr (.inl hx))
    obtain ⟨hlty, hsy⟩ := h.known y (.inr (.inl hy))
    exact h.unique x y hltx hlty hsx hsy ⟨by rw [hconn], hid.symm⟩
  forwards f hf := (h.forwards f hf).2

end Owned

/-! ### Whole runs -/

/-- Two circuits are extended over one connection, with different IDs, and a cell of the second
one's next hop arrives. -/
def twoExtended (draw : UInt32) : List ExtendStep :=
  [.create 1, .create 2, .extend 1 0 (some 5), .extend 2 0 (some draw), .created 0, .register 0,
    .created 1, .register 1]

end ExtendNet

end GoTor.Relay

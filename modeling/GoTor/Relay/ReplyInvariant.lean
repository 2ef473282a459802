import GoTor.Relay.ExtendReplies

/-!
# The invariant of waiting requests

While requests over one pool key take their turns, the unsettled ones share a connection and
differ in their IDs, a connection without a reader has at most one of them, and a cell on a link
belongs to a request that is past the point where it could be lost.  Here are the invariant, how
it fares when one request moves on or cells leave a link, and the steps of a request.
-/

namespace GoTor.Relay

open GoTor.Lib Function List Table

namespace ReplyNet

variable {keyOf : NextConnPtr → Bytes} {s s' : ReplyNet}

def Alone (s : ReplyNet) (x : ExtPtr) : Prop :=
  ∀ y, s.Unsettled y → (s.exts y).conn = (s.exts x).conn → y = x

def Served (s : ReplyNet) (conn : NextConnPtr) : Prop :=
  s.closed conn = true ∨ s.readers.get conn ≠ none

/-- Readers, flags and closed connections. -/
structure Links (keyOf : NextConnPtr → Bytes) (s : ReplyNet) : Prop where
  flagged : ∀ c, s.readers.get c ≠ none → s.flags (keyOf c) = true
  flag : ∀ k, s.flags k = true → ∃ c, s.readers.get c ≠ none ∧ keyOf c = k
  oneReader : ∀ c c', s.readers.get c ≠ none → s.readers.get c' ≠ none → keyOf c = keyOf c' → c = c'
  closed : ∀ c, s.closed c = true → s.stream c = [] ∧ s.readers.get c = none

/-- The unsettled requests of a key share a connection, with its reader, and differ in their IDs. -/
structure Keys (keyOf : NextConnPtr → Bytes) (s : ReplyNet) : Prop where
  bound : ∀ x, s.Unsettled x → x < s.fresh
  ids : ∀ x y, s.Unsettled x → s.Unsettled y → s.key keyOf x = s.key keyOf y → (s.exts x).id = (s.exts y).id → x = y
  conn : ∀ x y, s.Unsettled x → s.Unsettled y → s.key keyOf x = s.key keyOf y → (s.exts x).conn = (s.exts y).conn
  reader : ∀ x c, s.Unsettled x → s.readers.get c ≠ none → keyOf c = s.key keyOf x → c = (s.exts x).conn
  answered : ∀ x, (s.exts x).answered = false → (s.exts x).taken = false

def PhaseOk (keyOf : NextConnPtr → Bytes) (s : ReplyNet) (x : ExtPtr) : Prop :=
  match (s.exts x).phase with
  | .sent => s.Served (s.exts x).conn ∨ s.Alone x
  | .toRegister => s.Served (s.exts x).conn
  | .onChannel => s.Served (s.exts x).conn ∧
      (s.pending.get (s.key keyOf x, (s.exts x).id) = some x ∨ (s.exts x).channel ≠ none) ∧
      ∀ r, (s.exts x).channel = some r → r.origin = some x ∧ (s.exts x).taken = true
  | .direct => s.closed (s.exts x).conn = true ∨
      s.readers.get (s.exts x).conn = none ∧ s.Alone x
  | .created | .ended => True

def CellOk (s : ReplyNet) (conn : NextConnPtr) (r : Reply) : Prop :=
  match r.origin with
  | none => ∀ x, s.Unsettled x → (s.exts x).conn = conn → (s.exts x).id ≠ r.id
  | some o => (s.exts o).conn = conn ∧ (s.exts o).id = r.id ∧ (s.exts o).answered = true ∧
      (s.exts o).taken = false ∧ (s.exts o).phase ≠ .sent ∧ (s.exts o).phase ≠ .toRegister

structure Sound (keyOf : NextConnPtr → Bytes) (s : ReplyNet) : Prop where
  links : Links keyOf s
  keys : Keys keyOf s
  phases : ∀ x, PhaseOk keyOf s x
  pending : ∀ k y, s.pending.get k = some y →
    (s.exts y).phase = .onChannel ∧ k = (s.key keyOf y, (s.exts y).id)
  cells : ∀ c, ∀ r ∈ s.inFlight c, CellOk s c r
  nodup : ∀ c, ((s.inFlight c).filterMap Reply.origin).Nodup
  delivered : ∀ d ∈ s.delivered, d.1 = d.2
  lost : s.lost = []

lemma exts_put_self (x : ExtPtr) (w : Waiter) : (s.put x w).exts x = w :=
  update_self _ _ _

variable {x : ExtPtr} {c : NextConnPtr} {w : Waiter} {r : Reply} {rest : List Reply} {y : ExtPtr}

lemma exts_put_of_ne (h : y ≠ x) (w : Waiter) : (s.put x w).exts y = s.exts y :=
  update_of_ne h _ _

lemma inFlight_congr (hreader : s'.readers.get c = s.readers.get c)
    (hstream : s'.stream c = s.stream c) : s'.inFlight c = s.inFlight c := by
  rw [inFlight, inFlight, hreader, hstream]

lemma inFlight_of_closed (h : Links keyOf s) (hc : s.closed c = true) : s.inFlight c = [] := by
  obtain ⟨hstream, hreader⟩ := h.closed c hc
  rw [inFlight, hstream, hreader]
  rfl

lemma Keys.mono (h : Keys keyOf s)
    (hids : ∀ x, (s'.exts x).conn = (s.exts x).conn ∧ (s'.exts x).id = (s.exts x).id)
    (hunsettled : ∀ x, s'.Unsettled x → s.Unsettled x) (hfresh : s'.fresh = s.fresh)
    (hreaders : ∀ c, s'.readers.get c ≠ none → s.readers.get c ≠ none)
    (hanswered : ∀ x, (s'.exts x).answered = false → (s'.exts x).taken = false) :
    Keys keyOf s' where
  bound x hx := hfresh ▸ h.bound x (hunsettled x hx)
  ids x y hx hy := by
    simp only [key, hids]
    exact h.ids x y (hunsettled x hx) (hunsettled y hy)
  conn x y hx hy := by
    simp only [key, hids]
    exact h.conn x y (hunsettled x hx) (hunsettled y hy)
  reader x c hx hc := by
    simp only [key, hids]
    exact h.reader x c (hunsettled x hx) (hreaders c hc)
  answered := hanswered

lemma PhaseOk.of_onChannel (hw : s.exts x = w)
    (hphase : w.phase = .onChannel) (hserved : s.Served w.conn)
    (hwait : s.pending.get (keyOf w.conn, w.id) = some x ∨ w.channel ≠ none)
    (hchannel : ∀ r, w.channel = some r → r.origin = some x ∧ w.taken = true) :
    PhaseOk keyOf s x := by
  rw [PhaseOk, key, hw, hphase]
  exact ⟨hserved, hwait, hchannel⟩

lemma PhaseOk.of_direct (hw : s.exts x = w) (hphase : w.phase = .direct)
    (hread : s.closed w.conn = true ∨ s.readers.get w.conn = none ∧ s.Alone x) :
    PhaseOk keyOf s x := by
  rw [PhaseOk, hw, hphase]
  exact hread

lemma PhaseOk.of_done (hw : s.exts x = w)
    (hphase : w.phase = .created ∨ w.phase = .ended) : PhaseOk keyOf s x := by
  rw [PhaseOk, hw]
  rcases hphase with hp | hp <;> rw [hp] <;> trivial

lemma PhaseOk.keep {a : Bool} (h : PhaseOk keyOf s x) (hx : s'.exts x = { s.exts x with answered := a })
    (hserved : s.Served (s.exts x).conn → s'.Served (s.exts x).conn)
    (hsent : (s.exts x).phase = .sent → s.Alone x → s'.Served (s.exts x).conn ∨ s'.Alone x)
    (hdirect : (s.exts x).phase = .direct →
      s.closed (s.exts x).conn = true ∨ s.readers.get (s.exts x).conn = none ∧ s.Alone x →
      s'.closed (s.exts x).conn = true ∨ s'.readers.get (s.exts x).conn = none ∧ s'.Alone x)
    (hpending : (s.exts x).phase = .onChannel →
      s.pending.get (s.key keyOf x, (s.exts x).id) = some x →
      s'.pending.get (s.key keyOf x, (s.exts x).id) = some x) : PhaseOk keyOf s' x := by
  rw [PhaseOk] at h
  cases hphase : (s.exts x).phase with
  | sent =>
    rw [hphase] at h
    rw [PhaseOk, hx, hphase]
    exact h.elim (fun hc => .inl (hserved hc)) (hsent hphase)
  | toRegister =>
    rw [hphase] at h
    rw [PhaseOk, hx, hphase]
    exact hserved h
  | onChannel =>
    rw [hphase] at h
    obtain ⟨hserve, hwait, hchannel⟩ := h
    exact .of_onChannel hx hphase (hserved hserve) (hwait.imp_left (hpending hphase)) hchannel
  | direct =>
    rw [hphase] at h
    exact .of_direct hx hphase (hdirect hphase h)
  | created => exact .of_done hx (.inl hphase)
  | ended => exact .of_done hx (.inr hphase)

lemma PhaseOk.mono {a : Bool} (h : PhaseOk keyOf s x) (hx : s'.exts x = { s.exts x with answered := a })
    (hconn : ∀ y, (s'.exts y).conn = (s.exts y).conn)
    (hunsettled : ∀ y, s'.Unsettled y → s.Unsettled y)
    (hclosed : ∀ c, s.closed c = true → s'.closed c = true)
    (hserved : ∀ c, s.readers.get c ≠ none → s'.Served c)
    (hreaders : (s.exts x).phase = .direct → s.readers.get (s.exts x).conn = none →
      s'.readers.get (s.exts x).conn = none)
    (hpending : (s.exts x).phase = .onChannel →
      s.pending.get (s.key keyOf x, (s.exts x).id) = some x →
      s'.pending.get (s.key keyOf x, (s.exts x).id) = some x) : PhaseOk keyOf s' x := by
  have halone : s.Alone x → s'.Alone x := fun ha y hy hc =>
    ha y (hunsettled y hy) ((hconn y).symm.trans (hc.trans (hconn x)))
  exact h.keep hx (fun hc => hc.elim (fun hc => .inl (hclosed _ hc)) (hserved _)) (fun _ ha => .inr (halone ha))
    (fun hphase hd => hd.imp (hclosed _) fun ⟨hnone, ha⟩ => ⟨hreaders hphase hnone, halone ha⟩)
    hpending

variable {o : ExtPtr} {k : Bytes × UInt32}

lemma CellOk.of_answer (hw : s.exts o = w) (ho : r.origin = some o)
    (hok : w.conn = c ∧ w.id = r.id ∧ w.answered = true ∧ w.taken = false ∧ w.phase ≠ .sent ∧
      w.phase ≠ .toRegister) : CellOk s c r := by
  rw [CellOk, ho]
  change (s.exts o).conn = c ∧ _
  rw [hw]
  exact hok

lemma CellOk.answer (h : CellOk s c r) (ho : r.origin = some o) :
    (s.exts o).conn = c ∧ (s.exts o).id = r.id ∧ (s.exts o).answered = true ∧
      (s.exts o).taken = false ∧ (s.exts o).phase ≠ .sent ∧ (s.exts o).phase ≠ .toRegister := by
  rwa [CellOk, ho] at h

lemma CellOk.mono (h : CellOk s c r)
    (hids : ∀ x, (s'.exts x).conn = (s.exts x).conn ∧ (s'.exts x).id = (s.exts x).id)
    (hunsettled : ∀ y, s'.Unsettled y → s.Unsettled y)
    (horigin : ∀ o, r.origin = some o → (s.exts o).answered = true → (s.exts o).taken = false →
      (s'.exts o).answered = true ∧ (s'.exts o).taken = false ∧
        ((s.exts o).phase ≠ .sent → (s.exts o).phase ≠ .toRegister →
          (s'.exts o).phase ≠ .sent ∧ (s'.exts o).phase ≠ .toRegister)) : CellOk s' c r := by
  unfold CellOk at h ⊢
  cases hr : r.origin with
  | none =>
    rw [hr] at h
    intro x hx
    rw [(hids x).1, (hids x).2]
    exact h x (hunsettled x hx)
  | some o =>
    rw [hr] at h
    obtain ⟨hconn, hid, hanswered, htaken, hsent, hregister⟩ := h
    obtain ⟨hanswered', htaken', hphase⟩ := horigin o hr hanswered htaken
    exact ⟨(hids o).1.trans hconn, (hids o).2.trans hid, hanswered', htaken', hphase hsent hregister⟩

/-- How a request moves on: it keeps its connection and ID, and it does not begin to wait. -/
structure Advances (w w' : Waiter) : Prop where
  conn : w'.conn = w.conn
  id : w'.id = w.id
  answered : w'.answered = w.answered
  taken : w'.taken = false → w.taken = false
  waiting : w'.phase.waiting = true → w.phase.waiting = true
  honest : w'.answered = false → w'.taken = false

/-- One request moves on, and the links stay as they are. -/
def move (s : ReplyNet) (x : ExtPtr) (w : Waiter) (pending : Table (Bytes × UInt32) ExtPtr)
    (delivered : List (ExtPtr × ExtPtr)) : ReplyNet :=
  { s with exts := update s.exts x w, pending, delivered }

variable {pending : Table (Bytes × UInt32) ExtPtr} {delivered : List (ExtPtr × ExtPtr)}

lemma exts_move_self : (s.move x w pending delivered).exts x = w :=
  update_self _ _ _

lemma exts_move_of_ne (h : y ≠ x) : (s.move x w pending delivered).exts y = s.exts y :=
  update_of_ne h _ _

lemma Advances.ids (hw : Advances (s.exts x) w) (y : ExtPtr) :
    ((s.move x w pending delivered).exts y).conn = (s.exts y).conn ∧
      ((s.move x w pending delivered).exts y).id = (s.exts y).id := by
  rcases eq_or_ne y x with rfl | hy
  · rw [exts_move_self]
    exact ⟨hw.conn, hw.id⟩
  · rw [exts_move_of_ne hy]
    exact ⟨rfl, rfl⟩

lemma Advances.unsettled (hw : Advances (s.exts x) w) (y : ExtPtr)
    (hy : (s.move x w pending delivered).Unsettled y) : s.Unsettled y := by
  unfold Unsettled at hy ⊢
  rcases eq_or_ne y x with rfl | hne
  · rw [exts_move_self] at hy
    exact hy.imp hw.waiting hw.taken
  · rwa [exts_move_of_ne hne] at hy

lemma Alone.advance {z : ExtPtr} (h : s.Alone z) (hw : Advances (s.exts x) w) :
    (s.move x w pending delivered).Alone z := by
  intro y hy hc
  rw [(hw.ids y).1, (hw.ids z).1] at hc
  exact h y (hw.unsettled y hy) hc

lemma Sound.progress (h : Sound keyOf s) (hw : Advances (s.exts x) w) (hdelivered : ∀ d ∈ delivered, d.1 = d.2)
    (hcell : (∀ c, ∀ r ∈ s.inFlight c, r.origin ≠ some x) ∨
      w.taken = (s.exts x).taken ∧ w.phase ≠ .sent ∧ w.phase ≠ .toRegister)
    (hok : PhaseOk keyOf (s.move x w pending delivered) x)
    (hothers : ∀ y, y ≠ x → (s.exts y).phase = .onChannel → s.pending.get (s.key keyOf y, (s.exts y).id) = some y →
      pending.get (s.key keyOf y, (s.exts y).id) = some y)
    (hpending : ∀ k y, pending.get k = some y →
      (y = x ∧ w.phase = .onChannel ∨ y ≠ x ∧ (s.exts y).phase = .onChannel) ∧ k = (s.key keyOf y, (s.exts y).id)) :
    Sound keyOf (s.move x w pending delivered) := by
  refine ⟨{ h.links with },
    h.keys.mono hw.ids hw.unsettled rfl (fun _ hc => hc) fun y => ?_, fun y => ?_,
    fun k y hk => ?_, fun c r hr => ?_, h.nodup, hdelivered, h.lost⟩
  · rcases eq_or_ne y x with rfl | hne
    · rw [exts_move_self]
      exact hw.honest
    · rw [exts_move_of_ne hne]
      exact h.keys.answered y
  · rcases eq_or_ne y x with rfl | hne
    · exact hok
    · exact (h.phases y).mono (exts_move_of_ne hne) (fun z => (hw.ids z).1) hw.unsettled
        (fun _ hc => hc) (fun _ hc => .inr hc) (fun _ hc => hc) (hothers y hne)
  · obtain ⟨hphase, hkey⟩ := hpending k y hk
    rw [key, (hw.ids y).1, (hw.ids y).2]
    refine ⟨?_, hkey⟩
    rcases hphase with ⟨rfl, hphase⟩ | ⟨hne, hphase⟩
    · rwa [exts_move_self]
    · rwa [exts_move_of_ne hne]
  · refine (h.cells c r hr).mono hw.ids hw.unsettled fun o ho hanswered htaken => ?_
    rcases eq_or_ne o x with rfl | hne
    · -- a reply of `x` is still on its way, so `x` has taken none
      obtain ⟨hsame, hsent, hregister⟩ := hcell.resolve_left fun hno => hno c r hr ho
      rw [exts_move_self, hw.answered, hsame]
      exact ⟨hanswered, htaken, fun _ _ => ⟨hsent, hregister⟩⟩
    · rw [exts_move_of_ne hne]
      exact ⟨hanswered, htaken, fun h1 h2 => ⟨h1, h2⟩⟩

lemma Links.mono (h : Links keyOf s) (hflags : s'.flags = s.flags)
    (hreaders : ∀ c, s'.readers.get c = none ↔ s.readers.get c = none)
    (hclosed : ∀ c, s'.closed c = true → s'.stream c = [] ∧ s.readers.get c = none) :
    Links keyOf s' where
  flagged c hc := by
    rw [hflags]
    exact h.flagged c (mt (hreaders c).2 hc)
  flag k hk := by
    rw [hflags] at hk
    obtain ⟨c, hc, hkey⟩ := h.flag k hk
    exact ⟨c, mt (hreaders c).1 hc, hkey⟩
  oneReader c c' hc hc' := h.oneReader c c' (mt (hreaders c).2 hc) (mt (hreaders c').2 hc')
  closed c hc := ⟨(hclosed c hc).1, (hreaders c).2 (hclosed c hc).2⟩

lemma Sound.shrink (h : Sound keyOf s) {flags : Bytes → Bool}
    {readers : Table NextConnPtr (Option Reply)} {stream : NextConnPtr → List Reply}
    {closed : NextConnPtr → Bool} (hlinks : Links keyOf { s with flags, readers, stream, closed })
    (hclosed : ∀ c, s.closed c = true → closed c = true)
    (hreaders : ∀ c, s.readers.get c = none → readers.get c = none)
    (hserved : ∀ c, s.readers.get c ≠ none → closed c = true ∨ readers.get c ≠ none)
    (hflight : ∀ c, ((readers.get c).join.toList ++ stream c).Sublist (s.inFlight c)) :
    Sound keyOf { s with flags, readers, stream, closed } := by
  refine ⟨hlinks, h.keys.mono (fun _ => ⟨rfl, rfl⟩) (fun _ hy => hy) rfl (fun c => mt (hreaders c))
    h.keys.answered, fun y => ?_, h.pending, fun c r hr => ?_, fun c => ?_, h.delivered, h.lost⟩
  · exact (h.phases y).mono (a := (s.exts y).answered) rfl (fun _ => rfl) (fun _ hy => hy) hclosed
      hserved (fun _ => hreaders _) fun _ hp => hp
  · exact (h.cells c r ((hflight c).subset hr)).mono (fun _ => ⟨rfl, rfl⟩) (fun _ hy => hy)
      fun _ _ ha ht => ⟨ha, ht, fun h1 h2 => ⟨h1, h2⟩⟩
  · exact (h.nodup c).sublist ((hflight c).filterMap _)

lemma Sound.no_cell (h : Sound keyOf s)
    (hx : (s.exts x).phase = .sent ∨ (s.exts x).phase = .toRegister ∨ (s.exts x).taken = true)
    (c : NextConnPtr) (r : Reply) (hr : r ∈ s.inFlight c) : r.origin ≠ some x := by
  intro ho
  obtain ⟨-, -, -, htaken, hsent, hregister⟩ := (h.cells c r hr).answer ho
  rcases hx with hx | hx | hx
  · exact hsent hx
  · exact hregister hx
  · rw [htaken] at hx
    cases hx

lemma unsettled_of_waiting (h : (s.exts x).phase.waiting = true) : s.Unsettled x :=
  .inl h

variable (h : Sound keyOf s)
include h

lemma Sound.entry_ne (hx : s.Unsettled x) (hy : s.Unsettled y) (hne : y ≠ x) :
    (s.key keyOf y, (s.exts y).id) ≠ (s.key keyOf x, (s.exts x).id) := by
  intro heq
  obtain ⟨hkey, hid⟩ := Prod.mk.inj heq
  exact hne (h.keys.ids y x hy hx hkey hid)

lemma Sound.entry_of_ne {P : Prop} (hx : (s.exts x).phase ≠ .onChannel) (hk : s.pending.get k = some y) :
    (P ∨ y ≠ x ∧ (s.exts y).phase = .onChannel) ∧ k = (s.key keyOf y, (s.exts y).id) := by
  obtain ⟨hphase, hkey⟩ := h.pending k y hk
  refine ⟨.inr ⟨?_, hphase⟩, hkey⟩
  rintro rfl
  exact hx hphase

lemma Sound.erased_others (hx : s.Unsettled x) (hne : y ≠ x) (hphase : (s.exts y).phase = .onChannel)
    (hp : s.pending.get (s.key keyOf y, (s.exts y).id) = some y) :
    (s.pending.erase (s.key keyOf x, (s.exts x).id)).get (s.key keyOf y, (s.exts y).id) = some y := by
  have hy : s.Unsettled y := unsettled_of_waiting (by rw [hphase]; rfl)
  rwa [get_erase_of_ne _ (h.entry_ne hx hy hne)]

lemma Sound.erased_entry {P : Prop}
    (hk : (s.pending.erase (s.key keyOf x, (s.exts x).id)).get k = some y) :
    (P ∨ y ≠ x ∧ (s.exts y).phase = .onChannel) ∧ k = (s.key keyOf y, (s.exts y).id) := by
  rw [get_erase] at hk
  obtain ⟨hne, hk⟩ := Option.ite_none_left_eq_some.1 hk
  obtain ⟨hphase, hkey⟩ := h.pending k y hk
  refine ⟨.inr ⟨?_, hphase⟩, hkey⟩
  rintro rfl
  exact hne hkey

omit h

/-! ### The steps of a request -/

include h

lemma Sound.readFlag (hx : (s.exts x).phase = .sent) : Sound keyOf (s.put x { s.exts x with
      phase := if s.flags (s.key keyOf x) then .toRegister else .direct }) := by
  obtain ⟨p, hp, heq⟩ : ∃ p : WaitPhase,
      (s.flags (s.key keyOf x) = true ∧ p = .toRegister ∨ s.flags (s.key keyOf x) = false ∧ p = .direct) ∧
      (if s.flags (s.key keyOf x) then WaitPhase.toRegister else .direct) = p := by
    cases s.flags (s.key keyOf x)
    · exact ⟨_, .inr ⟨rfl, rfl⟩, rfl⟩
    · exact ⟨_, .inl ⟨rfl, rfl⟩, rfl⟩
  rw [heq]
  have hw : Advances (s.exts x) { s.exts x with phase := p } :=
    ⟨rfl, rfl, rfl, id, fun _ => by rw [hx]; rfl, h.keys.answered x⟩
  have huns : s.Unsettled x := unsettled_of_waiting (by rw [hx]; rfl)
  refine h.progress hw h.delivered (.inl (h.no_cell (.inl hx))) ?_ (fun _ _ _ hp => hp) fun k y hk => ?_
  · have hphase := h.phases x
    rw [PhaseOk, hx] at hphase
    rw [PhaseOk, exts_move_self]
    obtain ⟨hflag, rfl⟩ | ⟨hflag, rfl⟩ := hp
    · obtain ⟨c, hc, hkey⟩ := h.links.flag _ hflag
      obtain rfl := h.keys.reader x c huns hc hkey
      exact .inr hc
    have hnone : s.readers.get (s.exts x).conn = none := by
      by_contra hc
      have hflagged := h.links.flagged _ hc
      rw [show keyOf (s.exts x).conn = s.key keyOf x from rfl, hflag] at hflagged
      cases hflagged
    rcases hphase with (hclosed | hreader) | halone
    · exact .inl hclosed
    · exact absurd hnone hreader
    · exact .inr ⟨hnone, halone.advance hw⟩
  · exact h.entry_of_ne (by rw [hx]; decide) hk

lemma Sound.register (hx : (s.exts x).phase = .toRegister) :
    Sound keyOf { s.put x { s.exts x with phase := .onChannel, channel := none } with
      pending := s.pending.set (s.key keyOf x, (s.exts x).id) x } := by
  have hw : Advances (s.exts x) { s.exts x with phase := .onChannel, channel := none } :=
    ⟨rfl, rfl, rfl, id, fun _ => by rw [hx]; rfl, h.keys.answered x⟩
  have huns : s.Unsettled x := unsettled_of_waiting (by rw [hx]; rfl)
  refine h.progress hw h.delivered (.inl (h.no_cell (.inr (.inl hx)))) ?_ (fun y hy hphase hp => ?_) fun k y hk => ?_
  · have hphase := h.phases x
    rw [PhaseOk, hx] at hphase
    exact .of_onChannel exts_move_self rfl hphase (.inl (get_set_self _ _ _)) fun r hr => by cases hr
  · have hyuns : s.Unsettled y := unsettled_of_waiting (by rw [hphase]; rfl)
    exact (get_set_of_ne _ (h.entry_ne huns hyuns hy)).trans hp
  · have hk : (s.pending.set (s.key keyOf x, (s.exts x).id) x).get k = some y := hk
    rw [get_set] at hk
    split at hk
    next heq =>
      cases hk
      exact ⟨.inl ⟨rfl, rfl⟩, heq⟩
    next hne => exact h.entry_of_ne (by rw [hx]; decide) hk

lemma Sound.leaveChannel (hx : (s.exts x).phase = .onChannel) (hw : Advances (s.exts x) w)
    (hphase : w.phase = .toRegister ∨ w.phase = .created ∨ w.phase = .ended)
    (hdelivered : ∀ d ∈ delivered, d.1 = d.2)
    (hcell : (s.exts x).taken = true ∨ w.taken = (s.exts x).taken ∧ w.phase ≠ .toRegister) :
    Sound keyOf (s.move x w (s.pending.erase (s.key keyOf x, (s.exts x).id)) delivered) := by
  have huns : s.Unsettled x := unsettled_of_waiting (by rw [hx]; rfl)
  have hsent : w.phase ≠ .sent := by
    rcases hphase with hp | hp | hp <;> rw [hp] <;> decide
  refine h.progress hw hdelivered (hcell.imp (fun ht => h.no_cell (.inr (.inr ht))) fun ⟨ht, hne⟩ =>
    ⟨ht, hsent, hne⟩) ?_ (fun y hy => h.erased_others huns hy) fun k y => h.erased_entry
  rcases hphase with hp | hp
  · have hphases := h.phases x
    rw [PhaseOk, hx, ← hw.conn] at hphases
    rw [PhaseOk, exts_move_self, hp]
    exact hphases.1
  · exact .of_done exts_move_self hp

omit h

lemma receive_eq {skip : WaitPhase} (ho : r.origin = none ∨ r.origin = some x) :
    s.receive x skip r = { s.put x { s.exts x with
      phase := s.afterCell x skip r, channel := none, taken := r.origin.isSome || (s.exts x).taken }
      with delivered := s.delivered ++ r.origin.toList.map fun o => (o, x) } := by
  unfold receive take
  rcases ho with ho | ho
  · rw [ho]
    rfl
  · rw [ho]
    simp only [put, update_self, update_idem, Option.isSome_some, Bool.true_or]

lemma afterCell_cases (x : ExtPtr) (skip : WaitPhase) (r : Reply) :
    s.afterCell x skip r = skip ∨ s.afterCell x skip r = .created ∨ s.afterCell x skip r = .ended := by
  unfold afterCell
  split
  · exact .inl rfl
  · split
    · exact .inr (.inl rfl)
    · exact .inr (.inr rfl)
  · exact .inr (.inr rfl)

lemma delivered_own (h : ∀ d ∈ s.delivered, d.1 = d.2) (ho : r.origin = none ∨ r.origin = some x) :
    ∀ d ∈ s.delivered ++ r.origin.toList.map fun o => (o, x), d.1 = d.2 := by
  intro d hd
  rcases mem_append.1 hd with hd | hd
  · exact h d hd
  obtain ⟨o, hmem, rfl⟩ := mem_map.1 hd
  rcases ho with ho | ho <;> rw [ho] at hmem
  · cases hmem
  · exact mem_singleton.1 hmem

include h

lemma Sound.channelTake (hr : (s.exts x).channel = some r) (hx : (s.exts x).phase = .onChannel) :
    Sound keyOf ((s.unregister keyOf x).receive x .toRegister r) := by
  have hphase := h.phases x
  rw [PhaseOk, hx] at hphase
  obtain ⟨ho, htaken⟩ := hphase.2.2 r hr
  have hanswered : (s.exts x).answered = true := by
    by_contra ha
    rw [h.keys.answered x (Bool.eq_false_iff.2 ha)] at htaken
    cases htaken
  have hw : Advances (s.exts x) { s.exts x with
      phase := (s.unregister keyOf x).afterCell x .toRegister r, channel := none,
      taken := r.origin.isSome || (s.exts x).taken } :=
    { conn := rfl
      id := rfl
      answered := rfl
      taken := fun hf => (Bool.or_eq_false_iff.1 hf).2
      waiting := fun _ => by rw [hx]; rfl
      honest := fun hf => absurd (hanswered.symm.trans hf) (by decide) }
  rw [receive_eq (.inr ho)]
  exact h.leaveChannel hx hw (afterCell_cases _ _ _) (delivered_own h.delivered (.inr ho)) (.inl htaken)

lemma Sound.advances_over (x : ExtPtr) : Advances (s.exts x) { s.exts x with phase := .ended } where
  conn := rfl
  id := rfl
  answered := rfl
  taken := id
  waiting hf := nomatch hf
  honest := h.keys.answered x

lemma Sound.timeoutChannel (hx : (s.exts x).phase = .onChannel) :
    Sound keyOf ((s.unregister keyOf x).put x { s.exts x with phase := .ended }) :=
  h.leaveChannel hx (h.advances_over x) (.inr (.inr rfl)) h.delivered (.inr ⟨rfl, nofun⟩)

lemma Sound.giveUp (hx : (s.exts x).phase ≠ .onChannel) :
    Sound keyOf (s.put x { s.exts x with phase := .ended }) := by
  refine h.progress (h.advances_over x) h.delivered (.inr ⟨rfl, nofun, nofun⟩) ?_ (fun _ _ _ hp => hp) fun k y hk => h.entry_of_ne hx hk
  exact .of_done exts_move_self (.inr rfl)

omit h

variable {conn : NextConnPtr}

lemma closed_update_iff : update s.closed conn true c = true ↔ c = conn ∨ s.closed c = true := by
  rw [update_apply]
  split
  next heq => exact ⟨fun _ => .inl heq, fun _ => rfl⟩
  next hne => exact ⟨.inr, fun hc => hc.resolve_left hne⟩

include h

lemma Sound.closeConn (hreader : s.readers.get conn = none) : Sound keyOf { s with
      closed := update s.closed conn true
      stream := update s.stream conn [] } := by
  refine h.shrink (h.links.mono rfl (fun _ => Iff.rfl) fun c hc => ?_)
    (fun c hc => closed_update_iff.2 (.inr hc)) (fun _ hc => hc) (fun _ hc => .inr hc) fun c => ?_
  · rcases eq_or_ne c conn with rfl | hne
    · exact ⟨update_self _ _ _, hreader⟩
    · obtain ⟨hstream, hnone⟩ := h.links.closed c ((closed_update_iff.1 hc).resolve_left hne)
      exact ⟨(update_of_ne hne _ _).trans hstream, hnone⟩
  · refine List.Sublist.append (List.Sublist.refl _) ?_
    rcases eq_or_ne c conn with rfl | hne
    · rw [update_self]
      exact nil_sublist _
    · rw [update_of_ne hne]

lemma Sound.discarded_eq_nil
    (hx : s.closed (s.exts x).conn = true ∨ s.Alone x) : s.discarded x = [] := by
  refine filter_eq_nil_iff.2 fun o ho => ?_
  obtain ⟨r, hr, horigin⟩ := mem_filterMap.1 ho
  obtain ⟨hconn, -, -, htaken, -⟩ := (h.cells _ r (mem_append_right _ hr)).answer horigin
  rcases hx with hclosed | halone
  · rw [(h.links.closed _ hclosed).1] at hr
    cases hr
  · simp [halone o (.inr htaken) hconn]

lemma Sound.timeoutDirect (hx : (s.exts x).phase = .direct) :
    Sound keyOf { s.put x { s.exts x with phase := .ended } with
      closed := update s.closed (s.exts x).conn true
      stream := update s.stream (s.exts x).conn []
      lost := s.lost ++ s.discarded x } := by
  have hphase := h.phases x
  rw [PhaseOk, hx] at hphase
  have hreader : s.readers.get (s.exts x).conn = none :=
    hphase.elim (fun hc => (h.links.closed _ hc).2) And.left
  rw [h.discarded_eq_nil (hphase.imp_right And.right), append_nil]
  exact (h.giveUp (x := x) (by rw [hx]; decide)).closeConn hreader

lemma Sound.no_other_cell (hc : s.inFlight c = r :: rest) (ho : r.origin = some o)
    (hself : s'.inFlight c = rest) (hothers : ∀ c', c' ≠ c → s'.inFlight c' = s.inFlight c')
    (c' : NextConnPtr) (r' : Reply) (hr' : r' ∈ s'.inFlight c') : r'.origin ≠ some o := by
  intro ho'
  rcases eq_or_ne c' c with rfl | hne
  · have hnodup := h.nodup c'
    rw [hc, filterMap_cons, ho] at hnodup
    rw [hself] at hr'
    exact (nodup_cons.1 hnodup).1 (mem_filterMap.2 ⟨r', hr', ho'⟩)
  · have hconn := ((h.cells c r (hc ▸ mem_cons_self)).answer ho).1
    have hconn' := ((h.cells c' r' (hothers c' hne ▸ hr')).answer ho').1
    exact hne (hconn'.symm.trans hconn)

lemma Sound.direct_origin
    (hx : (s.exts x).phase = .direct) (hc : s.inFlight (s.exts x).conn = r :: rest) :
    r.origin = none ∨ r.origin = some x := by
  cases ho : r.origin with
  | none => exact .inl rfl
  | some o =>
    obtain ⟨hconn, -, -, htaken, -⟩ := (h.cells _ r (hc ▸ mem_cons_self)).answer ho
    have hphase := h.phases x
    rw [PhaseOk, hx] at hphase
    rcases hphase with hclosed | ⟨-, halone⟩
    · rw [inFlight_of_closed h.links hclosed] at hc
      cases hc
    · rw [halone o (.inr htaken) hconn]
      exact .inr rfl

lemma Sound.receiveDirect
    (hx : (s.exts x).phase = .direct) (ho : r.origin = none ∨ r.origin = some x)
    (hown : r.origin = some x → (s.exts x).answered = true ∧ ∀ c, ∀ r' ∈ s.inFlight c, r'.origin ≠ some x) :
    Sound keyOf (s.receive x .direct r) := by
  have hw : Advances (s.exts x) { s.exts x with
      phase := s.afterCell x .direct r, channel := none,
      taken := r.origin.isSome || (s.exts x).taken } :=
    { conn := rfl
      id := rfl
      answered := rfl
      taken := fun hf => (Bool.or_eq_false_iff.1 hf).2
      waiting := fun _ => by rw [hx]; rfl
      honest := fun hf => by
        rcases ho with ho | ho
        · rw [ho]
          exact h.keys.answered x hf
        · exact absurd ((hown ho).1.symm.trans hf) (by decide) }
  have hafter := afterCell_cases (s := s) x .direct r
  have hnext : s.afterCell x .direct r ≠ .sent ∧ s.afterCell x .direct r ≠ .toRegister := by
    rcases hafter with hp | hp | hp <;> rw [hp] <;> decide
  rw [receive_eq ho]
  refine h.progress hw (delivered_own h.delivered ho) ?_ ?_ (fun _ _ _ hp => hp) fun k y hk => h.entry_of_ne (by rw [hx]; decide) hk
  · rcases ho with ho | ho
    · refine .inr ⟨?_, hnext⟩
      rw [ho]
      rfl
    · exact .inl (hown ho).2
  · have hphase := h.phases x
    rw [PhaseOk, hx] at hphase
    rcases hafter with hp | hp
    · exact .of_direct exts_move_self hp
        (hphase.imp_right fun ⟨hnone, halone⟩ => ⟨hnone, halone.advance hw⟩)
    · exact .of_done exts_move_self hp

lemma Sound.dropCell (hstream : s.stream conn = r :: rest) :
    Sound keyOf { s with stream := update s.stream conn rest } := by
  refine h.shrink (h.links.mono rfl (fun _ => Iff.rfl) fun c hc => ?_)
    (fun _ hc => hc) (fun _ hc => hc) (fun _ hc => .inr hc) fun c => ?_
  · obtain ⟨hempty, hnone⟩ := h.links.closed c hc
    refine ⟨?_, hnone⟩
    have hne : c ≠ conn := by
      rintro rfl
      rw [hempty] at hstream
      cases hstream
    exact (update_of_ne hne _ _).trans hempty
  · refine List.Sublist.append (List.Sublist.refl _) ?_
    rcases eq_or_ne c conn with rfl | hne
    · rw [update_self, hstream]
      exact sublist_cons_self _ _
    · rw [update_of_ne hne]

lemma Sound.directTake
    (hx : (s.exts x).phase = .direct) (hstream : s.stream (s.exts x).conn = r :: rest) :
    Sound keyOf (receive { s with stream := update s.stream (s.exts x).conn rest } x .direct r) := by
  have hphase := h.phases x
  rw [PhaseOk, hx] at hphase
  have hnone : s.readers.get (s.exts x).conn = none :=
    hphase.elim (fun hc => (h.links.closed _ hc).2) And.left
  have hc : s.inFlight (s.exts x).conn = r :: rest := by
    rw [inFlight, hnone, hstream]
    rfl
  refine (h.dropCell hstream).receiveDirect hx (h.direct_origin hx hc) fun ho => ⟨?_, ?_⟩
  · exact ((h.cells _ r (hc ▸ mem_cons_self)).answer ho).2.2.1
  refine h.no_other_cell hc ho ?_ fun c' hne => ?_
  · rw [inFlight, hnone]
    exact update_self _ _ _
  · exact inFlight_congr rfl (update_of_ne hne _ _)

end ReplyNet

end GoTor.Relay

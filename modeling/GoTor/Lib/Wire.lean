import GoTor.Lib.Run
import GoTor.Lib.Bytes

/-!
# A byte stream with several writers

Messages are written to one stream in several calls of `Write` each, by writers that may take
turns between two calls.  A reader decodes the stream front to back.  `Framing` is what a reader
needs: a whole message decodes to its value, and what has been decoded stays when more arrives.
As long as no writer starts while another one is at work, the reader finds exactly the
messages written to the end (`Wire.Exclusive.decodeAll`).
-/

namespace GoTor.Lib

open List

variable {M D : Type}

/-- Decode messages off the front of a stream, as long as one can be decoded. -/
def decodeAll (decode : Bytes → Option (D × Bytes)) : ℕ → Bytes → List D
  | 0, _ => []
  | fuel + 1, b =>
    match decode b with
    | some (d, rest) => d :: decodeAll decode fuel rest
    | none => []

/-- How the messages that satisfy `Ok` are written and read. -/
structure Framing (Ok : M → Prop) (writes : M → List Bytes) (value : M → D)
    (decode : Bytes → Option (D × Bytes)) : Prop where
  nonempty : ∀ m, Ok m → writes m ≠ []
  chunk_ne : ∀ m, Ok m → ∀ chunk ∈ writes m, chunk ≠ []
  whole : ∀ m, Ok m → decode (writes m).flatten = some (value m, [])
  /-- What has been read of a stream does not change when more arrives. -/
  mono : ∀ b d rest more, decode b = some (d, rest) → decode (b ++ more) = some (d, rest ++ more)
  nil : decode [] = none

lemma Framing.comap {N : Type} {Ok : M → Prop} {writes : M → List Bytes} {value : M → D}
    {decode : Bytes → Option (D × Bytes)} (F : Framing Ok writes value decode) (f : N → M) :
    Framing (fun n => Ok (f n)) (fun n => writes (f n)) (fun n => value (f n)) decode where
  nonempty n := F.nonempty (f n)
  chunk_ne n := F.chunk_ne (f n)
  whole n := F.whole (f n)
  mono := F.mono
  nil := F.nil

section Decode

variable {Ok : M → Prop} {writes : M → List Bytes} {value : M → D} {decode : Bytes → Option (D × Bytes)}

lemma Framing.short (F : Framing Ok writes value decode) {m : M} (hm : Ok m) {head tail : Bytes}
    (htail : tail ≠ []) (hcut : (writes m).flatten = head ++ tail) : decode head = none := by
  cases hdec : decode head with
  | none => rfl
  | some r =>
    obtain ⟨d, rest⟩ := r
    have hwhole := F.mono head d rest tail hdec
    rw [← hcut, F.whole m hm] at hwhole
    have hnil := (Prod.mk.inj (Option.some.inj hwhole)).2
    exact absurd (append_eq_nil_iff.1 hnil.symm).2 htail

lemma Framing.length_le (F : Framing Ok writes value decode) (ms : List M)
    (hms : ∀ m ∈ ms, Ok m) : ms.length ≤ (ms.flatMap fun m => (writes m).flatten).length := by
  induction ms with
  | nil => simp
  | cons m ms ih =>
    have hrest := ih fun m' hm' => hms m' (mem_cons_of_mem _ hm')
    have hm := hms m mem_cons_self
    obtain ⟨chunk, hchunk⟩ := exists_mem_of_ne_nil _ (F.nonempty m hm)
    have hpos : 0 < (writes m).flatten.length := by
      refine length_pos_iff.2 fun hnil => F.chunk_ne m hm chunk hchunk ?_
      exact flatten_eq_nil_iff.1 hnil chunk hchunk
    rw [flatMap_cons, length_append, length_cons]
    omega

lemma Framing.decodeAll_flatMap (F : Framing Ok writes value decode) {part : Bytes}
    (hpart : decode part = none) (ms : List M) (hms : ∀ m ∈ ms, Ok m) {fuel : ℕ}
    (hfuel : ms.length ≤ fuel) :
    decodeAll decode fuel (ms.flatMap (fun m => (writes m).flatten) ++ part) = ms.map value := by
  induction ms generalizing fuel with
  | nil =>
    cases fuel with
    | zero => rfl
    | succ fuel => simp [decodeAll, hpart]
  | cons m ms ih =>
    cases fuel with
    | zero => exact absurd hfuel (by simp)
    | succ fuel =>
      have hrest := ih (fun m' hm' => hms m' (mem_cons_of_mem _ hm')) (Nat.le_of_succ_le_succ hfuel)
      rw [flatMap_cons, append_assoc, decodeAll,
        F.mono _ _ _ _ (F.whole m (hms m mem_cons_self))]
      simp only [nil_append, hrest, map_cons]

end Decode

/-! ### The writers -/

/-- The stream: what is written, the messages written to the end, and for each writer at work its
message, the calls it has yet to make, and whether they end the message or an error does. -/
structure Wire (M : Type) where
  out : Bytes := []
  sent : List M := []
  writing : List (M × List Bytes × Bool) := []
  deriving DecidableEq

namespace Wire

variable {w w' : Wire M} {m : M}

def start (w : Wire M) (m : M) (writes : List Bytes) (whole : Bool) : Wire M :=
  { w with writing := w.writing ++ [(m, writes, whole)] }

def write (w : Wire M) (i : ℕ) : Option (Wire M) :=
  match w.writing[i]? with
  | some (m, chunk :: rest, whole) => some
      { out := w.out ++ chunk
        sent := if rest = [] ∧ whole then w.sent ++ [m] else w.sent
        writing := if rest = [] then w.writing.eraseIdx i else w.writing.set i (m, rest, whole) }
  | _ => none

/-- At most one writer is at work, on a message it writes to the end; the stream is the messages
sent and what this writer has written. -/
inductive Exclusive (Ok : M → Prop) (writes : M → List Bytes) (w : Wire M) : Prop
  | idle (hsent : ∀ m ∈ w.sent, Ok m) (hwriting : w.writing = [])
      (hout : w.out = w.sent.flatMap fun m => (writes m).flatten)
  | busy (hsent : ∀ m ∈ w.sent, Ok m) (m : M) (hm : Ok m) (written rest : List Bytes)
      (hwrites : writes m = written ++ rest) (hrest : rest ≠ [])
      (hwriting : w.writing = [(m, rest, true)])
      (hout : w.out = w.sent.flatMap (fun m => (writes m).flatten) ++ written.flatten)

section Exclusive

variable {Ok : M → Prop} {writes : M → List Bytes} {value : M → D} {decode : Bytes → Option (D × Bytes)}

lemma exclusive_empty : Exclusive Ok writes ({} : Wire M) :=
  .idle (by simp) rfl rfl

variable (h : Exclusive Ok writes w)
include h

lemma Exclusive.start (F : Framing Ok writes value decode) (hfree : w.writing = []) (hm : Ok m) :
    Exclusive Ok writes (w.start m (writes m) true) := by
  cases h with
  | idle hsent hwriting hout =>
    refine .busy hsent m hm [] (writes m) rfl (F.nonempty m hm) ?_ ?_
    · simp [Wire.start, hwriting]
    · simpa [Wire.start] using hout
  | busy hsent m' hm' written rest hwrites hrest hwriting hout => simp [hfree] at hwriting

lemma Exclusive.write {i : ℕ} (hw : w.write i = some w') : Exclusive Ok writes w' ∧
      w'.sent ++ w'.writing.map Prod.fst = w.sent ++ w.writing.map Prod.fst := by
  unfold Wire.write at hw
  cases h with
  | idle hsent hwriting hout => simp [hwriting] at hw
  | busy hsent m hm written rest hwrites hrest hwriting hout =>
    obtain ⟨chunk, rest, rfl⟩ := exists_cons_of_ne_nil hrest
    cases i with
    | succ i => simp [hwriting] at hw
    | zero =>
      simp only [hwriting] at hw
      cases hw
      by_cases hlast : rest = []
      · subst hlast
        refine ⟨.idle (forall_mem_append.2 ⟨hsent, forall_mem_singleton.2 hm⟩) rfl ?_, ?_⟩
        · simp [hout, hwrites]
        · simp [hwriting]
      · refine ⟨.busy (by simpa [hlast] using hsent) m hm (written ++ [chunk]) rest
          (by simp [hwrites]) hlast ?_ ?_, ?_⟩
        · simp [hlast]
        · simp [hlast, hout]
        · simp [hlast, hwriting]

lemma Exclusive.sent_ok : ∀ m ∈ w.sent, Ok m := by
  cases h with
  | idle hsent _ _ | busy hsent _ _ _ _ _ _ _ _ => exact hsent

lemma Exclusive.out_eq (F : Framing Ok writes value decode) :
    ∃ part, w.out = w.sent.flatMap (fun m => (writes m).flatten) ++ part ∧ decode part = none := by
  cases h with
  | idle hsent hwriting hout => exact ⟨[], by simpa using hout, F.nil⟩
  | busy hsent m hm written rest hwrites hrest hwriting hout =>
    refine ⟨written.flatten, hout, F.short hm (?_ : rest.flatten ≠ []) ?_⟩
    · obtain ⟨chunk, hchunk⟩ := exists_mem_of_ne_nil _ hrest
      intro hflat
      refine F.chunk_ne m hm chunk (hwrites ▸ mem_append_right _ hchunk) ?_
      exact flatten_eq_nil_iff.1 hflat chunk hchunk
    · rw [hwrites, flatten_append]

lemma Exclusive.out_eq_of_free (hfree : w.writing = []) : w.out = w.sent.flatMap fun m => (writes m).flatten := by
  cases h with
  | idle hsent hwriting hout => exact hout
  | busy hsent m hm written rest hwrites hrest hwriting hout => simp [hfree] at hwriting

/-- **With one writer at a time the reader finds exactly the messages sent.** -/
theorem Exclusive.decodeAll (F : Framing Ok writes value decode) :
    decodeAll decode w.out.length w.out = w.sent.map value := by
  obtain ⟨part, hout, hpart⟩ := h.out_eq F
  have hfuel : w.sent.length ≤ w.out.length := by
    have := F.length_le w.sent h.sent_ok
    rw [hout, length_append]
    omega
  rw [show Lib.decodeAll decode w.out.length w.out = Lib.decodeAll decode w.out.length
    (w.sent.flatMap (fun m => (writes m).flatten) ++ part) by rw [← hout]]
  exact F.decodeAll_flatMap hpart w.sent h.sent_ok hfuel

end Exclusive

end Wire

end GoTor.Lib

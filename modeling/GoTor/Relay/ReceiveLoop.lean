import GoTor.Cell.LinkCodec
import GoTor.Lib.Readers

/-!
# The receive loop of an OR connection

`handleConnection` asks for one cell after the other with `ReceiveCell`, each call under a
timeout of its own.  `ReceiveCell` decodes in a goroutine; when the timeout fires first it returns
and leaves the goroutine at the socket, and the loop tries again.
-/

namespace GoTor.Relay

open GoTor.Lib

/-- The connection: the peer's bytes, the goroutines that decode and the cells the loop has got. -/
abbrev ReceiveLoop := Readers Cell

namespace ReceiveLoop

def start (circIDLen : ℕ) (cells : List Cell) : ReceiveLoop :=
  { rest := cells.flatMap fun c => (c.linkWrites circIDLen).flatten }

/-- The loop, byte by byte: `read` and `stale` are `DecodeCellLink` of the present call and of one
that has timed out, `collect` is `case result := <-resultCh`, `timeout` is `case <-ctx.Done()` with
`context.DeadlineExceeded`, and `stop` is any other way out of the loop. -/
def step (circIDLen : ℕ) : ReceiveLoop → ReadStep → Option ReceiveLoop :=
  Readers.step (decodeCellLink circIDLen)

/-- **The cells received are the first ones the peer wrote**, whole and in order, in every run in
which no receive timeout fires while the peer still has bytes to be read. -/
theorem received_in_order (circIDLen : ℕ) (cells : List Cell)
    (hfits : ∀ c ∈ cells, c.Fits circIDLen) (es : List ReadStep)
    (htime : RunMeets (step circIDLen) Readers.InTime (start circIDLen cells) es)
    (s : ReceiveLoop) (hrun : run (step circIDLen) (start circIDLen cells) es = some s) :
    s.returned <+: cells.map Cell.padded :=
  Readers.returned_in_order (framing_link circIDLen) hfits htime hrun

def twoCells : List Cell := [⟨1, 128, []⟩, ⟨2, 128, []⟩]

lemma fits_twoCells : ∀ c ∈ twoCells, c.Fits 4 := by
  unfold Cell.Fits
  decide

/-- Both cells are read, and the next call times out on an idle connection. -/
def bothThenIdle : List ReadStep :=
  .replicate 7 .read ++ [.collect] ++ .replicate 7 .read ++ [.collect, .timeout]

theorem received_in_order_idle :
    ∃ s, run (step 4) (start 4 twoCells) bothThenIdle = some s ∧ s.returned = twoCells ∧
      s.returned <+: twoCells.map Cell.padded := by
  have hrun : run (step 4) (start 4 twoCells) bothThenIdle =
      some { rest := [], abandoned := [[]], returned := twoCells } := by decide +kernel
  exact ⟨_, hrun, rfl,
    received_in_order 4 twoCells fits_twoCells bothThenIdle (by decide +kernel) _ hrun⟩

/-- A timeout before the first cell arrives: the goroutine left behind takes it, and the loop gets
the second cell only. -/
theorem timeout_loses_cell :
    ∃ s, run (step 4) (start 4 twoCells)
        ([.timeout] ++ .replicate 7 (.stale 0) ++ .replicate 7 .read ++ [.collect]) = some s ∧
      s.returned = [⟨2, 128, []⟩] ∧ ¬ s.returned <+: twoCells.map Cell.padded := by
  decide +kernel

end ReceiveLoop

end GoTor.Relay

import LatticeGas.Proofs.Arena.Counting
import LatticeGas.Proofs.Tracker.Invariant
import LatticeGas.Proofs.Tracker.Twins

/-
  This file shows what sharing nodes saves. A tracker that
  shares them holds the same squares as one that does not,
  each of them once. So its nodes are as many as there are
  different squares, in all and of each level.

  Key theorems include:
    * `Tracker.exists_twin_of_run`
    * `Tracker.distinct_squares_of_run`
-/

------------------------------------------------------------
-- Runs With and Without Sharing
------------------------------------------------------------

namespace LatticeGas

namespace Tracker

variable {L : Type}
variable [Lattice L]

/-
  With a tracker a twin of it that shares nodes goes through
  every run.
-/
theorem exists_twin_of_run
    {lattice : L}
    {config config' : Config}
    (hAlike : Config.Alike config config')
    (hShares : config.intern = true)
    {right other : Tracker}
    (hBuild : build lattice config' = .ok right)
    {ops : List Op}
    (hRun : Op.run ops right = .ok other) :
    ∃ left reached,
      build lattice config = .ok left ∧
        Op.run ops left = .ok reached ∧
        Twins config config' reached other := by
  have hConcur := concur_build hShares config' lattice
  rw [hBuild] at hConcur
  rcases hConcur.exists_of_ok with ⟨left, hLeft, hTwins⟩
  rw [Op.run_eq_runCalls] at hRun
  rcases Arena.answered_of_map hRun with ⟨record, hCalls, rfl⟩
  have hRuns := hTwins.concur_runCalls hAlike ops
  rw [hCalls] at hRuns
  rcases hRuns.exists_of_ok with ⟨reached, hReached, -, hLast⟩
  refine ⟨left, reached.2, hLeft, ?_, hLast⟩
  rw [Op.run_eq_runCalls, hReached]
  rfl

/-
  Two trackers of one lattice, of which only the first shares
  nodes, go through the same operations and are not compacted
  by themselves. They hold the same squares, and the first
  has one node for each of them. This is so whether or not
  either of them remembers steps. The first one is built and
  goes through the operations if the other one does.
-/
theorem distinct_squares_of_run
    {lattice : L}
    {memoize memoize' : Bool}
    {plain : Tracker}
    (hBuild :
      build lattice ⟨false, memoize', none⟩ = .ok plain)
    (ops : List Op) :
    Barring (plain.RunsShort (Lattice.side lattice) ops)
      (fun other : Tracker =>
        ∃ shared reached,
          build lattice ⟨true, memoize, none⟩ = .ok shared ∧
          Op.run ops shared = .ok reached ∧
          reached.arena.pieces = other.arena.pieces ∧
          (∀ piece ∈ other.arena.pieces, ∃! id,
            reached.arena.Denotes id piece.square) ∧
          reached.stats.nodes = other.arena.pieces.encard ∧
          ∀ level : Nat,
            reached.stats.perLevel.getD level 0 =
              { piece ∈ other.arena.pieces |
                piece.level = level }.encard)
      (Op.run ops plain) := by
  have hAlike :
      Config.Alike ⟨true, memoize, none⟩
        ⟨false, memoize', none⟩ :=
    ⟨rfl, Or.inl rfl⟩
  refine Barring.imp (barring_run_of_build_eq_ok hBuild ops)
    (fun _ hShort => hShort) ?_
  intro other hRun _
  rcases exists_twin_of_run hAlike rfl hBuild hRun with
    ⟨shared, reached, hShared, hReached, hTwins⟩
  have hArena := hTwins.arenas.traced_left.sound.wellFormed
  have hShares := hTwins.arenas.shares_left
  have hPieces :
      reached.arena.pieces = other.arena.pieces :=
    Set.ext hTwins.arenas.holds_iff
  refine ⟨shared, reached, hShared, hReached, hPieces,
    ?_, ?_, ?_⟩
  · rw [← hPieces]
    intro piece hPiece
    rcases hPiece with ⟨id, hId⟩
    exact ⟨id, hId, fun found hFound =>
      hArena.id_eq hShares hFound hId⟩
  · rw [← hPieces, hArena.encard_pieces hShares]
    rfl
  · intro level
    rw [← hPieces,
      hArena.encard_pieces_of_level hShares level]
    rfl

/- Particles that all move along the first axis at first. -/
theorem distinct_squares_of_run_lone :
    ∃ shared plain reached other,
      build (⟨3, Cell.lone .xPos⟩ : Uniform)
          ⟨true, true, none⟩ = .ok shared ∧
      build (⟨3, Cell.lone .xPos⟩ : Uniform)
          ⟨false, true, none⟩ = .ok plain ∧
      Op.run [.advance, .compact, .advanceAtLeast 9] shared =
          .ok reached ∧
      Op.run [.advance, .compact, .advanceAtLeast 9] plain =
          .ok other ∧
      reached.arena.pieces = other.arena.pieces ∧
      reached.stats.nodes = other.arena.pieces.encard := by
  have hReadable :=
    Lattice.readable_uniform ⟨3, Cell.lone .xPos⟩
  rcases exists_built_run ⟨false, true, none⟩ hReadable
      (by decide) rfl (by decide)
      [.advance, .compact, .advanceAtLeast 9] (by decide)
      (by decide) with
    ⟨plain, -, other, hPlain, -, hOther, -⟩
  rcases (distinct_squares_of_run hPlain _).of_ok hOther with
    ⟨shared, reached, hShared, hReached, hPieces, -, hNodes,
      -⟩
  exact ⟨shared, plain, reached, other, hShared, hPlain,
    hReached, hOther, hPieces, hNodes⟩

end Tracker

end LatticeGas

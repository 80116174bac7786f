import LatticeGas.Proofs.Tracker.Invariant

/-
  This file shows that the region of a tracker never leaves
  its square, that there are only walls around it, and that
  no operation on a tracker that was built is ever a fault
  while there are numbers for its nodes and ticks.

  Key definitions include:
    * `Tracker.Contained`
    * `Tracker.Unfailing`

  Key theorems include:
    * `Tracker.contained_of_run`
-/

------------------------------------------------------------
-- Contained Regions
------------------------------------------------------------

namespace LatticeGas

namespace Tracker

/-
  The region is a square with the given side that starts as
  far along either axis of the tracker's square, which has
  the given level. It lies in that square, and all other
  cells of the square are walls.
-/
structure Contained
    (tracker : Tracker)
    (side level : Nat) : Prop where
  width_eq : tracker.region.width = side
  height_eq : tracker.region.height = side
  origin_eq : tracker.region.originX = tracker.region.originY
  level_eq : tracker.level = .ok level
  fits : tracker.region.originX + side ≤ sideOfLevel level
  walls_around :
    ∀ x y : Nat,
      x < sideOfLevel level → y < sideOfLevel level →
        ¬ (tracker.region.originX ≤ x ∧
          x < tracker.region.originX + side ∧
          tracker.region.originY ≤ y ∧
          y < tracker.region.originY + side) →
          tracker.arena.cellAt tracker.root x y = .ok .wall

/-
  No operation on the tracker is a fault unless the numbers
  that are left are too few for its moves, and reading a cell
  of the region never is. Every macro step that is taken has
  a square with four quadrants of quadrants, and a region that
  starts no earlier than where the middle of that square does.
-/
structure Unfailing
    (tracker : Tracker)
    (side : Nat) : Prop where
  op_ok :
    ∀ op : Op,
      Barring
        (tracker.FallsShort
          (moveNodes (seedLevel side) op.moves)
          (moveTicks (seedLevel side) op.moves))
        (fun _ => True) (op.apply tracker)
  cell_ok :
    ∀ x y : Nat,
      x < side → y < side →
        ∃ cell, tracker.cellAt x y = .ok cell
  calls_ok :
    ∀ (op : Op) (calls : List Call) (next : Tracker),
      op.calls tracker = .ok (calls, next) →
        op.apply tracker = .ok next ∧
        ∀ call ∈ calls,
          call.before.grow = .ok call.padded ∧
            call.padded.level = .ok call.level ∧
            2 ≤ call.level ∧ call.level ≤ maxLevel ∧
            call.ticks ≤ call.padded.region.originX ∧
            call.ticks ≤ call.padded.region.originY

variable {tracker : Tracker}
variable {plane : Plane}
variable {side top level done : Nat}
variable {frame : Frame}

/- What a tracker shows in some frame is contained there. -/
theorem Shows.contained
    (hShows : tracker.Shows plane side top frame)
    (hWalled : plane.WalledOutside side) :
    tracker.Contained side frame.level := by
  have hRegion := hShows.region_eq
  have hFits := hShows.fits
  constructor
  · rw [hRegion]
    rfl
  · rw [hRegion]
    rfl
  · rw [hRegion]
    rfl
  · exact hShows.level_eq
  · rw [hRegion]
    exact hFits
  · intro x y hx hy hOutside
    rw [hRegion] at hOutside
    exact hShows.wall_outside hWalled hx hy hOutside

/- The square of a macro step is large enough for it. -/
theorem Call.Numbered.central
    {call : Call}
    (hSeeded : plane.SeededAt side level)
    (hCall : call.Numbered plane side level done) :
    call.padded.level = .ok call.level ∧
      2 ≤ call.level ∧ call.level ≤ maxLevel ∧
      call.ticks ≤ call.padded.region.originX ∧
      call.ticks ≤ call.padded.region.originY := by
  have hShows := hCall.padded_shows
  have hCentral := central_padded hSeeded done
  unfold Call.ticks
  rw [hShows.level_eq, hShows.region_eq, hCall.level_eq]
  exact ⟨rfl, hCentral.1, hShows.level_le_max,
    hCentral.2.1, hCentral.2.2.1⟩

/- A tracker that follows the gas does not fail. -/
theorem Follows.unfailing
    (hSeeded :
      plane.SeededAt side (seedLevel side))
    (hFollows :
      tracker.Follows plane side (seedLevel side) done) :
    tracker.Unfailing side := by
  constructor
  · intro op
    rw [Op.apply_eq_calls]
    exact Barring.map (hFollows.calls hSeeded op)
      fun _ _ => trivial
  · intro x y hx hy
    rcases hFollows.exists_shows with ⟨frame, hShows⟩
    exact ⟨_, hShows.cellAt_eq hx hy⟩
  · intro op calls next hCalls
    constructor
    · rw [Op.apply_eq_calls, hCalls]
      rfl
    rcases Barring.of_ok (hFollows.calls hSeeded op) hCalls
      with ⟨hContinues, -⟩
    intro call hCall
    rcases List.mem_iff_getElem?.mp hCall with ⟨i, hFound⟩
    have hNumbered := hContinues.numbered i call hFound
    exact ⟨hNumbered.grow_eq, hNumbered.central hSeeded⟩

end Tracker

end LatticeGas

------------------------------------------------------------
-- Runs of Trackers
------------------------------------------------------------

namespace LatticeGas

namespace Tracker

variable {L : Type}
variable [Lattice L]

/-
  A tracker that was built stays contained and unfailing in
  every run, barring a shortage of numbers.
-/
theorem contained_of_run
    {lattice : L}
    {config : Config}
    {built : Tracker}
    (hBuild : build lattice config = .ok built)
    (ops : List Op) :
    Barring (built.RunsShort (Lattice.side lattice) ops)
      (fun reached =>
        (∃ level,
          reached.Contained (Lattice.side lattice) level) ∧
        reached.Unfailing (Lattice.side lattice))
      (Op.run ops built) := by
  rcases follows_of_build_eq_ok hBuild with ⟨hSeeded, -⟩
  refine (barring_run_of_build_eq_ok hBuild ops).mono ?_
  rintro reached ⟨done, hFollows⟩
  rcases hFollows.exists_shows with ⟨frame, hShows⟩
  exact ⟨⟨frame.level, hShows.contained hSeeded.walled⟩,
    hFollows.unfailing hSeeded⟩

/- A lattice without gas, which is not walled in itself. -/
theorem contained_three_wide :
    ∃ built reached,
      build (⟨3, Cell.empty⟩ : Uniform) {} = .ok built ∧
        Op.run [.advance, .compact, .advanceAtLeast 9]
            built = .ok reached ∧
          (∃ level, reached.Contained 3 level) ∧
            reached.Unfailing 3 := by
  have hReadable :=
    Lattice.readable_uniform ⟨3, Cell.empty⟩
  rcases exists_built_run {} hReadable (by decide) rfl
      (by decide) [.advance, .compact, .advanceAtLeast 9]
      (by decide) (by decide) with
    ⟨built, -, reached, hBuild, -, hRun, -⟩
  exact ⟨built, reached, hBuild, hRun,
    (contained_of_run hBuild _).of_ok hRun⟩

end Tracker

end LatticeGas

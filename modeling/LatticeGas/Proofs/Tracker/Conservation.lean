import LatticeGas.Proofs.Lattice.Measures
import LatticeGas.Proofs.Tracker.Containment

/-
  This file shows that the particles that are counted on a
  lattice, and the walls that it has, stay the same through
  every number of ticks of a grid and every run of a tracker.

  Key theorems include:
    * `Lattice.SeenIn.conserved`
    * `Tracker.particleCount_walls_conserved`
-/

------------------------------------------------------------
-- Lattices at Different Times
------------------------------------------------------------

namespace LatticeGas

namespace Lattice

variable {L M : Type}
variable [Lattice L]
variable [Lattice M]
variable {lattice : L}
variable {later : M}
variable {plane : Plane}
variable {ticks : Nat}

/-
  Two lattices of one side that are seen in a walled plane
  now and some ticks later have equally many particles, and
  the same walls. If these are too many to be counted, then
  they are so both times.
-/
theorem SeenIn.conserved
    (hSeen : SeenIn lattice plane)
    (hLater : SeenIn later (Plane.run ticks plane))
    (hSide : side later = side lattice)
    (hWalled : plane.WalledOutside (side lattice)) :
    particleCount lattice =
        addCount 0 (plane.particlesIn (side lattice)) ∧
      particleCount later =
        addCount 0 (plane.particlesIn (side lattice)) ∧
      walls later = walls lattice := by
  refine ⟨hSeen.particleCount_eq, ?_, ?_⟩
  · rw [hLater.particleCount_eq, hSide,
      hWalled.particlesIn_run]
  · rw [hLater.walls_eq, hSeen.walls_eq, hSide]
    simp only [Plane.run_eq_wall_iff]

end Lattice

namespace Tracker

variable {tracker : Tracker}
variable {plane : Plane}
variable {side top : Nat}
variable {frame : Frame}

/- The region of a tracker has the side that it shows. -/
theorem Shows.side_eq
    (hShows : tracker.Shows plane side top frame) :
    Lattice.side tracker = side := by
  change tracker.region.width = side
  rw [hShows.region_eq]
  rfl

/- It is seen in the plane when its ticks have passed. -/
theorem Shows.seenIn
    (hShows : tracker.Shows plane side top frame) :
    Lattice.SeenIn tracker
      (Plane.run tracker.elapsed plane) := by
  intro x y hx hy
  rw [hShows.side_eq] at hx hy
  exact hShows.cellAt_eq hx hy

end Tracker

end LatticeGas

------------------------------------------------------------
-- Conservation
------------------------------------------------------------

namespace LatticeGas

namespace Tracker

/-
  A grid has the same number of particles and the same walls
  after any number of ticks. A tracker that was built from a
  lattice has the number of particles and the walls of the
  lattice after every run, barring a shortage of numbers. The
  number is that of all particles, unless it is too large to
  be a count.
-/
theorem particleCount_walls_conserved :
    (∀ (grid : Grid) (ticks : Nat),
      let particles := grid.plane.particlesIn grid.side
      Lattice.particleCount grid = addCount 0 particles ∧
        Lattice.particleCount (grid.stepMany ticks) =
          addCount 0 particles ∧
        Lattice.walls (grid.stepMany ticks) =
          Lattice.walls grid) ∧
      ∀ (L : Type) [Lattice L] (lattice : L)
        (config : Config) (built : Tracker) (ops : List Op),
        build lattice config = .ok built →
          Barring (built.RunsShort (Lattice.side lattice) ops)
            (fun reached =>
              let particles :=
                (Lattice.plane lattice).particlesIn
                  (Lattice.side lattice)
              Lattice.particleCount lattice =
                  addCount 0 particles ∧
                Lattice.particleCount reached =
                  addCount 0 particles ∧
                Lattice.walls reached =
                  Lattice.walls lattice)
            (Op.run ops built) := by
  constructor
  · intro grid ticks
    have hLater :
        Lattice.SeenIn (grid.stepMany ticks)
          (Plane.run ticks grid.plane) := by
      rw [← Grid.plane_stepMany]
      exact Grid.seenIn_plane _
    exact grid.seenIn_plane.conserved hLater
      (Grid.side_stepMany ticks grid)
      grid.walledOutside_plane
  · intro L _ lattice config built ops hBuild
    rcases of_build_eq_ok hBuild with ⟨hReadable, -, -⟩
    refine (barring_run_of_build_eq_ok hBuild ops).mono ?_
    rintro reached ⟨done, hFollows⟩
    rcases hFollows.exists_shows with ⟨frame, hShows⟩
    have hSeen :
        Lattice.SeenIn lattice (Lattice.plane lattice) :=
      fun _ _ hx hy => hReadable.cellAt_eq hx hy
    exact hSeen.conserved hShows.seenIn hShows.side_eq
      (Lattice.walledOutside_plane lattice)

/- Four particles around a wall in the middle of a grid. -/
def aroundWall : Grid :=
  let cells : List (List Cell) :=
    [[.lone .xPos, .headOnY, .empty],
      [.empty, .wall, .lone .yNeg],
      [.empty, .empty, .empty]]
  Grid.ofBoard (Nat.succ_pos 2)
    (Board.ofRows cells (by decide)) none

/- The particles stay four, and the wall stays there. -/
theorem particleCount_walls_conserved_aroundWall :
    ∃ built reached,
      build aroundWall {} = .ok built ∧
        Op.run [.advance, .compact, .advanceAtLeast 5]
            built = .ok reached ∧
          Lattice.particleCount reached = .ok 4 ∧
            (1, 1) ∈ Lattice.walls reached := by
  have hReadable : Lattice.Readable aroundWall :=
    fun _ _ hx hy =>
      ⟨_, aroundWall.cellAt_eq_plane hx hy⟩
  rcases exists_built_run {} hReadable (by decide) rfl
      (by decide) [.advance, .compact, .advanceAtLeast 5]
      (by decide) (by decide) with
    ⟨built, -, reached, hBuild, -, hRun, -⟩
  rcases (particleCount_walls_conserved.2 Grid aroundWall {}
      built [.advance, .compact, .advanceAtLeast 5]
      hBuild).of_ok hRun with
    ⟨hCount, hReached, hWalls⟩
  have hFour : Lattice.particleCount aroundWall = .ok 4 :=
    rfl
  have hWall : (1, 1) ∈ Lattice.walls aroundWall :=
    ⟨by decide, by decide, rfl⟩
  rw [← hWalls] at hWall
  exact ⟨built, reached, hBuild, hRun,
    hReached.trans (hCount.symm.trans hFour), hWall⟩

end Tracker

end LatticeGas

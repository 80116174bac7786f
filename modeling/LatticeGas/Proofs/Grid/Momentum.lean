import LatticeGas.Proofs.Grid.Neighbours
import LatticeGas.Proofs.Lattice.Measures
import LatticeGas.Proofs.Plane.Momentum
import Mathlib.Algebra.BigOperators.Pi

/-
  This file shows how the net motion of a whole grid changes
  in a tick: by twice the number of particles that bounce back
  from a wall or from the edge, with the sense of motion that
  they have afterwards.

  Key definitions include:
    * `Grid.Bounces`
    * `Grid.bouncing`

  Key theorems include:
    * `Lattice.SeenIn.blockFlow_eq`
    * `Grid.bouncedIn_plane`
    * `Grid.blockFlow_step`
-/

------------------------------------------------------------
-- The Flow of a Lattice
------------------------------------------------------------

namespace LatticeGas

namespace Lattice

open Finset

variable {L : Type}
variable [Lattice L]
variable {lattice : L}
variable {plane : Plane}

/- The flow that is added up is the motion in the plane. -/
theorem SeenIn.blockFlow_eq
    (hSeen : SeenIn lattice plane) :
    blockFlow lattice 0 0 (side lattice) =
      .ok (plane.momentumIn (side lattice) .xPos,
        plane.momentumIn (side lattice) .yPos) := by
  let motion : Cell → Int × Int := fun cell =>
    (cell.velocityX, cell.velocityY)
  have hFold :
      blockFlow lattice 0 0 (side lattice) =
        .ok (0 + ∑ y ∈ Finset.range (side lattice),
          ∑ x ∈ Finset.range (side lattice),
            motion (plane x y)) :=
    hSeen.foldBlock_eq accumulates_ok motion trivial
  rw [hFold]
  simp only [motion, prod_mk_sum, Plane.momentumIn,
    Cell.velocityX_eq_momentum, Cell.velocityY_eq_momentum,
    zero_add]

end Lattice

end LatticeGas

------------------------------------------------------------
-- Bouncing Particles
------------------------------------------------------------

namespace LatticeGas

namespace Grid

open Finset

/-
  The site holds a particle that moves along `d`, and next to
  it in this direction there is a wall or the edge.
-/
def Bounces
    (grid : Grid)
    (d : Direction)
    (site : Nat × Nat) : Prop :=
  (grid.cells.read site.1 site.2).has d = true ∧
    ∀ next ∈ neighbour? grid.side site d,
      grid.cells.read next.1 next.2 = .wall

instance
    (grid : Grid)
    (d : Direction) :
    DecidablePred (grid.Bounces d) := by
  unfold Bounces
  infer_instance

/- The sites of the grid from which a particle bounces. -/
def bouncing
    (grid : Grid)
    (d : Direction) : Finset (Nat × Nat) :=
  (range grid.side ×ˢ range grid.side).filter
    (grid.Bounces d)

/- A site throws one particle back, or none. -/
theorem bounced_eq
    (grid : Grid)
    (d : Direction)
    (x y : Nat) :
    (grid.plane x y).bounced (grid.plane.ahead x y d) d =
      if grid.Bounces d (x, y) then 1 else 0 := by
  have hOwn : grid.plane x y = grid.cells.read x y :=
    grid.cells.plane_natCast x y
  cases hNext : neighbour? grid.side (x, y) d with
  | none =>
      have hEdge := grid.ahead_of_edge hNext
      simp only at hEdge
      simp only [hEdge, Cell.bounced, Cell.sent, Bounces,
        hNext, hOwn]
      cases (grid.cells.read x y).has d <;> simp
  | some next =>
      have hAhead := grid.ahead_of_neighbour hNext
      have hCell :
          grid.plane next.1 next.2 =
            grid.cells.read next.1 next.2 :=
        grid.cells.plane_natCast _ _
      simp only at hAhead
      simp only [hAhead, hCell, Bounces, hNext, hOwn,
        Option.mem_def, Option.some.injEq, forall_eq']
      cases grid.cells.read next.1 next.2 with
      | wall =>
          simp only [Cell.bounced, Cell.sent]
          cases (grid.cells.read x y).has d <;> simp
      | gas flow => simp [Cell.bounced]

/- The particles that bounce are counted by their sites. -/
theorem bouncedIn_plane
    (grid : Grid)
    (d : Direction) :
    grid.plane.bouncedIn grid.side d =
      (grid.bouncing d).card := by
  unfold Plane.bouncedIn bouncing
  rw [card_filter, sum_product_right]
  simp only [bounced_eq]

end Grid

end LatticeGas

------------------------------------------------------------
-- The Balance of a Tick
------------------------------------------------------------

namespace LatticeGas

namespace Grid

open Finset

/-
  In a tick the net motion of a grid along either axis grows
  by two for every particle that moves backwards against a
  wall or the edge, and falls by two for every particle that
  moves forwards against one. Nothing else changes it.
-/
theorem blockFlow_step
    (grid : Grid) :
    ∃ vx vy : Int,
      Lattice.blockFlow grid 0 0 grid.side = .ok (vx, vy) ∧
        Lattice.blockFlow grid.step 0 0 grid.side =
          .ok
            (vx + 2 * (grid.bouncing .xNeg).card -
                2 * (grid.bouncing .xPos).card,
              vy + 2 * (grid.bouncing .yNeg).card -
                2 * (grid.bouncing .yPos).card) := by
  have hWalled := grid.walledOutside_plane
  have hNow := grid.seenIn_plane.blockFlow_eq
  have hNext := grid.step.seenIn_plane.blockFlow_eq
  rw [plane_step] at hNext
  change Lattice.blockFlow grid.step 0 0 grid.side = _
    at hNext
  refine ⟨_, _, hNow, hNext.trans ?_⟩
  change Except.ok
    (grid.plane.tick.momentumIn grid.side .xPos,
      grid.plane.tick.momentumIn grid.side .yPos) = _
  rw [hWalled.momentumIn_tick_x, hWalled.momentumIn_tick_y]
  simp only [bouncedIn_plane, Int.add_sub_assoc]
  rfl

end Grid

end LatticeGas

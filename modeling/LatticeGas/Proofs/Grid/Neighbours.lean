import LatticeGas.Proofs.Grid.Ticks
import LatticeGas.Proofs.Plane.Reversal

/-
  This file defines the neighbours that a site has on a grid.
  Where a site has none, it lies at the edge of the grid, and
  the plane around the grid has a wall there.

  Key definitions include:
    * `Grid.neighbour?`

  Key theorems include:
    * `Grid.neighbour?_eq_some_iff`
    * `Grid.ahead_of_neighbour`
    * `Grid.ahead_of_edge`
-/

------------------------------------------------------------
-- Neighbours
------------------------------------------------------------

namespace LatticeGas

namespace Grid

/-
  The site next to a site in a direction, on a grid of the
  given side. Beyond the edge of the grid there is none.
-/
def neighbour?
    (side : Nat)
    (site : Nat × Nat)
    (d : Direction) : Option (Nat × Nat) :=
  let x : Int := site.1 + d.dx
  let y : Int := site.2 + d.dy
  if 0 ≤ x ∧ x < side ∧ 0 ≤ y ∧ y < side then
    some (x.toNat, y.toNat)
  else
    none

variable {side : Nat}
variable {site next : Nat × Nat}
variable {d : Direction}

/- A neighbour is where the direction leads to, in range. -/
theorem neighbour?_eq_some_iff :
    neighbour? side site d = some next ↔
      next.1 < side ∧ next.2 < side ∧
        (next.1 : Int) = site.1 + d.dx ∧
        (next.2 : Int) = site.2 + d.dy := by
  rcases next with ⟨x, y⟩
  simp only [neighbour?, Option.ite_none_right_eq_some,
    Option.some.injEq, Prod.mk.injEq]
  constructor
  · rintro ⟨hRange, rfl, rfl⟩
    omega
  · rintro ⟨hx, hy, hPlaceX, hPlaceY⟩
    omega

/- Without a neighbour, the direction leads out of range. -/
theorem neighbour?_eq_none_iff :
    neighbour? side site d = none ↔
      ¬ (0 ≤ (site.1 : Int) + d.dx ∧
        (site.1 : Int) + d.dx < side ∧
        0 ≤ (site.2 : Int) + d.dy ∧
        (site.2 : Int) + d.dy < side) := by
  simp only [neighbour?, ite_eq_right_iff, reduceCtorEq,
    imp_false]

/- Towards a neighbour the plane shows the neighbour. -/
theorem ahead_of_neighbour
    (grid : Grid)
    (hNext : neighbour? grid.side site d = some next) :
    grid.plane.ahead site.1 site.2 d =
      grid.plane next.1 next.2 := by
  rcases neighbour?_eq_some_iff.mp hNext with
    ⟨-, -, hPlaceX, hPlaceY⟩
  rw [Plane.ahead, hPlaceX, hPlaceY]

/- Beyond the edge the plane shows a wall. -/
theorem ahead_of_edge
    (grid : Grid)
    (hEdge : neighbour? grid.side site d = none) :
    grid.plane.ahead site.1 site.2 d = .wall :=
  grid.walledOutside_plane _ _
    (neighbour?_eq_none_iff.mp hEdge)

end Grid

end LatticeGas

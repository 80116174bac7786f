import LatticeGas.Proofs.Plane.Reversal

/-
  This file shows that the gas on the plane does not prefer
  any of the four directions. The eight rotations and
  reflections of a square move its sites and turn its
  particles, and a tick commutes with each of them.

  Key definitions include:
    * `Symmetry`
    * `Symmetry.place`
    * `Symmetry.direction`
    * `Cell.relabel`
    * `Plane.view`

  Key theorems include:
    * `Symmetry.place_ahead`
    * `Plane.tick_view`
    * `Plane.run_view`
-/

------------------------------------------------------------
-- Symmetries of a Square
------------------------------------------------------------

namespace LatticeGas

namespace Direction

/- The direction when both axes change places. -/
def transpose : Direction → Direction
| .xNeg => .yNeg
| .xPos => .yPos
| .yNeg => .xNeg
| .yPos => .xPos

/- The direction when the first axis is turned around. -/
def mirrorX : Direction → Direction
| .xNeg => .xPos
| .xPos => .xNeg
| .yNeg => .yNeg
| .yPos => .yPos

/- The direction when the second axis is turned around. -/
def mirrorY : Direction → Direction
| .xNeg => .xNeg
| .xPos => .xPos
| .yNeg => .yPos
| .yPos => .yNeg

end Direction

/-
  A rotation or reflection of a square: whether the axes
  change places, and which of them are turned around then.
  There are eight of them.
-/
structure Symmetry where
  swaps : Bool := false
  flipsX : Bool := false
  flipsY : Bool := false
  deriving DecidableEq

namespace Symmetry

/- The reflection at the diagonal through the origin. -/
def transposition : Symmetry :=
  { swaps := true }

/- The reflection that turns the first axis around. -/
def mirror : Symmetry :=
  { flipsX := true }

/- Where a site of a square with the given side is moved. -/
def place
    (symmetry : Symmetry)
    (side x y : Int) : Int × Int :=
  let u := if symmetry.swaps then y else x
  let v := if symmetry.swaps then x else y
  (if symmetry.flipsX then side - 1 - u else u,
    if symmetry.flipsY then side - 1 - v else v)

/- Where a direction is turned. -/
def direction
    (symmetry : Symmetry)
    (d : Direction) : Direction :=
  let e := if symmetry.swaps then d.transpose else d
  let e := if symmetry.flipsX then e.mirrorX else e
  if symmetry.flipsY then e.mirrorY else e

variable (symmetry : Symmetry)

/- Opposite directions stay opposite. -/
theorem direction_opposite
    (d : Direction) :
    symmetry.direction d.opposite =
      (symmetry.direction d).opposite := by
  rcases symmetry with ⟨swaps, flipsX, flipsY⟩
  cases swaps <;> cases flipsX <;> cases flipsY <;>
    cases d <;> rfl

/- The site ahead goes ahead of where the site goes. -/
theorem place_ahead
    (side x y : Int)
    (d : Direction) :
    symmetry.place side (x + d.dx) (y + d.dy) =
      ((symmetry.place side x y).1 +
          (symmetry.direction d).dx,
        (symmetry.place side x y).2 +
          (symmetry.direction d).dy) := by
  rcases symmetry with ⟨swaps, flipsX, flipsY⟩
  ext <;> cases swaps <;> cases flipsX <;> cases flipsY <;>
    cases d <;>
    simp only [place, direction, Direction.transpose,
      Direction.mirrorX, Direction.mirrorY, Direction.dx,
      Direction.dy, Bool.false_eq_true, if_true, if_false] <;>
    omega

/- Sites are moved within the square. -/
theorem place_inside_iff
    (side x y : Int) :
    (0 ≤ (symmetry.place side x y).1 ∧
        (symmetry.place side x y).1 < side ∧
        0 ≤ (symmetry.place side x y).2 ∧
        (symmetry.place side x y).2 < side) ↔
      0 ≤ x ∧ x < side ∧ 0 ≤ y ∧ y < side := by
  rcases symmetry with ⟨swaps, flipsX, flipsY⟩
  cases swaps <;> cases flipsX <;> cases flipsY <;>
    simp only [place, Bool.false_eq_true, if_true,
      if_false] <;>
    omega

end Symmetry

end LatticeGas

------------------------------------------------------------
-- Turned Particles
------------------------------------------------------------

namespace LatticeGas

namespace Flow

/- The flow that holds what the other one holds, turned. -/
def relabel
    (symmetry : Symmetry)
    (flow : Flow) : Flow :=
  ofFn fun d => flow.has (symmetry.direction d)

/- A head-on pair stays one, so it collides alike. -/
theorem relabel_collide
    (symmetry : Symmetry)
    (flow : Flow) :
    flow.collide.relabel symmetry =
      (flow.relabel symmetry).collide := by
  rcases symmetry with ⟨swaps, flipsX, flipsY⟩
  rcases flow with ⟨a, b, c, d⟩
  cases swaps <;> cases flipsX <;> cases flipsY <;>
    cases a <;> cases b <;> cases c <;> cases d <;> rfl

end Flow

namespace Cell

/- The cell with its particles turned. Walls stay walls. -/
def relabel
    (symmetry : Symmetry) : Cell → Cell
| .wall => .wall
| .gas flow => .gas (flow.relabel symmetry)

variable (symmetry : Symmetry)

@[simp] theorem relabel_wall :
    Cell.relabel symmetry .wall = .wall :=
  rfl

@[simp] theorem relabel_eq_wall_iff
    (cell : Cell) :
    cell.relabel symmetry = .wall ↔ cell = .wall := by
  cases cell <;> simp [relabel]

theorem has_relabel
    (cell : Cell)
    (d : Direction) :
    (cell.relabel symmetry).has d =
      cell.has (symmetry.direction d) := by
  cases cell with
  | wall => rfl
  | gas flow => exact Flow.has_ofFn _ d

/- What arrives at a turned site has been turned itself. -/
theorem arrives_relabel
    (own behind : Cell)
    (d : Direction) :
    (own.relabel symmetry).arrives
        (behind.relabel symmetry) d =
      own.arrives behind (symmetry.direction d) := by
  cases behind with
  | wall =>
      rw [relabel_wall, arrives_wall, arrives_wall,
        has_relabel, Symmetry.direction_opposite]
  | gas flow =>
      have hGas : Cell.gas flow ≠ .wall := by simp
      rw [arrives_of_ne_wall hGas, arrives_of_ne_wall
        (by rwa [ne_eq, relabel_eq_wall_iff]), has_relabel]

end Cell

end LatticeGas

------------------------------------------------------------
-- Turned Planes
------------------------------------------------------------

namespace LatticeGas

namespace Plane

/-
  The plane as it looks when the square of the given side at
  its origin is rotated or reflected.
-/
def view
    (symmetry : Symmetry)
    (side : Nat)
    (plane : Plane) : Plane :=
  fun x y =>
    (plane (symmetry.place side x y).1
      (symmetry.place side x y).2).relabel symmetry

variable (symmetry : Symmetry)
variable (side : Nat)
variable (plane : Plane)

/- Ahead of a site is what was ahead of it before. -/
theorem ahead_view
    (x y : Int)
    (d : Direction) :
    (plane.view symmetry side).ahead x y d =
      (plane.ahead (symmetry.place side x y).1
        (symmetry.place side x y).2
        (symmetry.direction d)).relabel symmetry := by
  rw [ahead, view, symmetry.place_ahead]
  rfl

/- So the same particles arrive, turned. -/
theorem inflow_view
    (x y : Int) :
    (plane.view symmetry side).inflow x y =
      (plane.inflow (symmetry.place side x y).1
        (symmetry.place side x y).2).relabel symmetry := by
  apply Flow.eq_of_has_eq
  intro d
  rw [inflow, Flow.has_ofFn, ahead_view,
    Symmetry.direction_opposite]
  simp only [view, Cell.arrives_relabel, Flow.relabel,
    inflow, Flow.has_ofFn]

/- A tick does not see from which side one looks at it. -/
theorem tick_view :
    (plane.view symmetry side).tick =
      plane.tick.view symmetry side := by
  funext x y
  by_cases hWall :
      plane (symmetry.place side x y).1
        (symmetry.place side x y).2 = .wall
  · rw [(tick_eq_wall_iff _ x y).mpr
      ((Cell.relabel_eq_wall_iff symmetry _).mpr hWall)]
    rw [view, (tick_eq_wall_iff plane _ _).mpr hWall,
      Cell.relabel_wall]
  · have hView : plane.view symmetry side x y ≠ .wall := by
      rwa [ne_eq, view, Cell.relabel_eq_wall_iff]
    rw [tick_eq_inflow _ hView, inflow_view,
      ← Flow.relabel_collide, view,
      tick_eq_inflow plane hWall]
    rfl

theorem run_view
    (ticks : Nat) :
    run ticks (plane.view symmetry side) =
      (run ticks plane).view symmetry side := by
  induction ticks generalizing plane with
  | zero => rfl
  | succ ticks ih => rw [run, tick_view, ih, run]

end Plane

end LatticeGas

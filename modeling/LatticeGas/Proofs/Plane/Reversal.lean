import LatticeGas.Proofs.Plane.Walls

/-
  This file shows that the gas on the plane can be run
  backwards. If every particle is turned around and the
  collisions at its site are undone, then as many ticks as
  have passed lead back to where the gas came from.

  Key definitions include:
    * `Flow.reverse`
    * `Cell.turn`
    * `Plane.turn`
    * `Plane.recoil`

  Key theorems include:
    * `Plane.recoil_recoil`
    * `Plane.tick_recoil`
    * `Plane.run_turn_run`
-/

------------------------------------------------------------
-- Turning Particles Around
------------------------------------------------------------

namespace LatticeGas

namespace Flow

/- Both particles of either axis change places. -/
def reverse (flow : Flow) : Flow :=
  { xNeg := flow.xPos
    xPos := flow.xNeg
    yNeg := flow.yPos
    yPos := flow.yNeg }

@[simp] theorem has_reverse
    (flow : Flow)
    (d : Direction) :
    flow.reverse.has d = flow.has d.opposite := by
  cases d <;> rfl

@[simp] theorem reverse_reverse
    (flow : Flow) :
    flow.reverse.reverse = flow :=
  rfl

/- A collision does not care for the sense of motion. -/
theorem reverse_collide
    (flow : Flow) :
    flow.collide.reverse = flow.reverse.collide := by
  rcases flow with ⟨a, b, c, d⟩
  cases a <;> cases b <;> cases c <;> cases d <;> rfl

end Flow

namespace Cell

/-
  Turn all particles of a site around, and let them collide.
  A wall stays a wall.
-/
def turn : Cell → Cell
| .wall => .wall
| .gas flow => .gas flow.reverse.collide

@[simp] theorem turn_eq_wall_iff
    (cell : Cell) :
    cell.turn = .wall ↔ cell = .wall := by
  cases cell <;> simp [turn]

@[simp] theorem turn_turn
    (cell : Cell) :
    cell.turn.turn = cell := by
  cases cell with
  | wall => rfl
  | gas flow =>
      simp only [turn, Flow.reverse_collide,
        Flow.reverse_reverse, Flow.collide_collide]

/- A cell is determined by its wall and its particles. -/
theorem eq_of_has_eq
    {left right : Cell}
    (hWall : left = .wall ↔ right = .wall)
    (hHas : ∀ d, left.has d = right.has d) :
    left = right := by
  cases left with
  | wall => exact (hWall.mp rfl).symm
  | gas flow =>
      cases right with
      | wall => cases hWall.mpr rfl
      | gas other => rw [Flow.eq_of_has_eq hHas]

theorem arrives_wall
    (own : Cell)
    (d : Direction) :
    own.arrives .wall d = own.has d.opposite :=
  rfl

theorem arrives_of_ne_wall
    {own behind : Cell}
    (hBehind : behind ≠ .wall)
    (d : Direction) :
    own.arrives behind d = behind.has d := by
  cases behind with
  | wall => exact absurd rfl hBehind
  | gas flow => rfl

end Cell

end LatticeGas

------------------------------------------------------------
-- Neighbours by Direction
------------------------------------------------------------

namespace LatticeGas

namespace Direction

/- How far a particle moves along the first axis. -/
def dx : Direction → Int
| .xNeg => -1
| .xPos => 1
| .yNeg => 0
| .yPos => 0

/- How far a particle moves along the second axis. -/
def dy : Direction → Int
| .xNeg => 0
| .xPos => 0
| .yNeg => -1
| .yPos => 1

@[simp] theorem dx_opposite
    (d : Direction) :
    d.opposite.dx = -d.dx := by
  cases d <;> rfl

@[simp] theorem dy_opposite
    (d : Direction) :
    d.opposite.dy = -d.dy := by
  cases d <;> rfl

end Direction

namespace Plane

/- The site that a particle at `(x, y)` moves to. -/
def ahead
    (plane : Plane)
    (x y : Int)
    (d : Direction) : Cell :=
  plane (x + d.dx) (y + d.dy)

/-
  The flow that reaches a site, by direction. A particle that
  moves along `d` comes from where the opposite leads to.
-/
def inflow
    (plane : Plane)
    (x y : Int) : Flow :=
  Flow.ofFn fun d =>
    (plane x y).arrives (plane.ahead x y d.opposite) d

/- The inflow of a site collides in one tick. -/
theorem tick_eq_inflow
    (plane : Plane)
    {x y : Int}
    (hGas : plane x y ≠ .wall) :
    plane.tick x y = .gas (plane.inflow x y).collide := by
  cases hCell : plane x y with
  | wall => exact absurd hCell hGas
  | gas flow =>
      simp only [tick, Cell.tick, Cell.arrivals, inflow,
        Flow.ofFn, ahead, Direction.opposite, Direction.dx,
        Direction.dy, hCell, Int.add_zero, Int.sub_eq_add_neg]

end Plane

end LatticeGas

------------------------------------------------------------
-- One Tick Back
------------------------------------------------------------

namespace LatticeGas

namespace Plane

/- Turn the particles of all sites around. -/
def turn (plane : Plane) : Plane :=
  fun x y => (plane x y).turn

@[simp] theorem turn_turn
    (plane : Plane) :
    plane.turn.turn = plane := by
  funext x y
  exact Cell.turn_turn (plane x y)

/- Let one tick pass, and turn the particles around. -/
def recoil (plane : Plane) : Plane :=
  plane.tick.turn

theorem recoil_eq_wall_iff
    (plane : Plane)
    (x y : Int) :
    plane.recoil x y = .wall ↔ plane x y = .wall := by
  unfold recoil turn
  rw [Cell.turn_eq_wall_iff, tick_eq_wall_iff]

/-
  After the recoil a site holds the particles that have
  arrived there, turned around. The collision is undone.
-/
theorem has_recoil
    (plane : Plane)
    {x y : Int}
    (hGas : plane x y ≠ .wall)
    (d : Direction) :
    (plane.recoil x y).has d =
      (plane x y).arrives (plane.ahead x y d)
        d.opposite := by
  simp only [recoil, turn, tick_eq_inflow plane hGas,
    Cell.turn, Flow.reverse_collide, Flow.collide_collide,
    Cell.has, Flow.has_reverse, inflow, Flow.has_ofFn,
    Direction.opposite_opposite]

/- From the site ahead one comes back by the opposite. -/
theorem ahead_opposite
    (plane : Plane)
    (x y : Int)
    (d : Direction) :
    plane.ahead (x + d.dx) (y + d.dy) d.opposite =
      plane x y := by
  unfold ahead
  rw [Direction.dx_opposite, Direction.dy_opposite,
    Int.add_neg_cancel_right, Int.add_neg_cancel_right]

/-
  A second recoil undoes the first one. A particle whose way
  is free goes to the site ahead and comes back from there. A
  particle in front of a wall is thrown back both times.
-/
theorem recoil_recoil
    (plane : Plane) :
    plane.recoil.recoil = plane := by
  funext x y
  by_cases hWall : plane x y = .wall
  · rw [hWall, recoil_eq_wall_iff, recoil_eq_wall_iff]
    exact hWall
  apply Cell.eq_of_has_eq
  · rw [recoil_eq_wall_iff, recoil_eq_wall_iff]
  intro d
  have hGas : plane.recoil x y ≠ .wall := by
    rwa [ne_eq, recoil_eq_wall_iff]
  rw [has_recoil plane.recoil hGas]
  by_cases hAhead : plane.ahead x y d = .wall
  · have hRecoilAhead :
        plane.recoil.ahead x y d = .wall :=
      (recoil_eq_wall_iff plane _ _).mpr hAhead
    rw [hRecoilAhead, Cell.arrives_wall,
      Direction.opposite_opposite, has_recoil plane hWall,
      hAhead, Cell.arrives_wall,
      Direction.opposite_opposite]
  · have hRecoilAhead :
        plane.recoil.ahead x y d ≠ .wall := by
      rwa [ne_eq, ahead, recoil_eq_wall_iff]
    rw [Cell.arrives_of_ne_wall hRecoilAhead, ahead,
      has_recoil plane hAhead, ahead_opposite,
      Cell.arrives_of_ne_wall hWall,
      Direction.opposite_opposite]

/- A tick of turned particles leads one tick back. -/
theorem tick_recoil
    (plane : Plane) :
    plane.recoil.tick = plane.turn := by
  have hBack : plane.recoil.tick.turn = plane :=
    recoil_recoil plane
  rw [← turn_turn plane.recoil.tick, hBack]

end Plane

end LatticeGas

------------------------------------------------------------
-- Any Number of Ticks Back
------------------------------------------------------------

namespace LatticeGas

namespace Plane

/- The last tick of a run comes after all others. -/
theorem run_succ
    (ticks : Nat)
    (plane : Plane) :
    run (ticks + 1) plane = (run ticks plane).tick := by
  rw [run_add, run_one]

/- A run of turned particles leads back to the start. -/
theorem run_turn_run
    (ticks : Nat)
    (plane : Plane) :
    run ticks (run ticks plane).turn = plane.turn := by
  induction ticks generalizing plane with
  | zero => rfl
  | succ ticks ih =>
      rw [run_succ ticks (run (ticks + 1) plane).turn, run,
        ih]
      exact tick_recoil plane

end Plane

end LatticeGas

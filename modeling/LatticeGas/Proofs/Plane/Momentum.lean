import Mathlib.Algebra.BigOperators.Ring.Finset
import LatticeGas.Lattice
import LatticeGas.Proofs.Plane.Conservation
import LatticeGas.Proofs.Plane.Reversal

/-
  This file shows that only walls change the net motion of
  the gas. A particle that is thrown back by a wall turns from
  one sense of motion to the other. What neighbours exchange,
  and what collides, moves on the whole as it did before.

  Key definitions include:
    * `Cell.momentum`
    * `Cell.bounced`
    * `Plane.momentumIn`
    * `Plane.bouncedIn`

  Key theorems include:
    * `Cell.momentum_collide`
    * `Cell.received_sub_received`
    * `Plane.sum_received_sub_received`
    * `Plane.WalledOutside.momentumIn_tick_x`
    * `Plane.WalledOutside.momentumIn_tick_y`
-/

------------------------------------------------------------
-- Motion of Single Sites
------------------------------------------------------------

namespace LatticeGas

namespace Cell

/- The net motion of the particles of a site along `d`. -/
def momentum
    (cell : Cell)
    (d : Direction) : Int :=
  cell.sent d - cell.sent d.opposite

/-
  The number of particles that a site sends along `d` against
  a wall, which throws them back.
-/
def bounced : (own ahead : Cell) → Direction → Nat
| own, .wall, d => own.sent d
| _, .gas _, _ => 0

@[simp] theorem bounced_of_wall
    (ahead : Cell)
    (d : Direction) :
    Cell.wall.bounced ahead d = 0 := by
  cases ahead <;> rfl

/- The number of particles, as a difference has it. -/
theorem toInt_has
    (cell : Cell)
    (d : Direction) :
    (cell.has d).toInt = cell.sent d := by
  unfold sent
  cases cell.has d <;> rfl

theorem velocityX_eq_momentum
    (cell : Cell) :
    cell.velocityX = cell.momentum .xPos := by
  rw [velocityX, toInt_has, toInt_has]
  rfl

theorem velocityY_eq_momentum
    (cell : Cell) :
    cell.velocityY = cell.momentum .yPos := by
  rw [velocityY, toInt_has, toInt_has]
  rfl

/- A head-on pair has no net motion along either axis. -/
theorem momentum_collide
    (flow : Flow)
    (d : Direction) :
    (gas flow.collide).momentum d =
      (gas flow).momentum d := by
  rcases flow with ⟨a, b, c, e⟩
  cases d <;> cases a <;> cases b <;>
    cases c <;> cases e <;> rfl

/- After a tick a site moves as what it has received. -/
theorem momentum_tick
    (left right bottom top own : Cell) :
    (tick left right bottom top own).momentum .xPos =
        own.received left .xPos -
          own.received right .xNeg ∧
      (tick left right bottom top own).momentum .yPos =
        own.received bottom .yPos -
          own.received top .yNeg := by
  cases own with
  | wall => exact ⟨rfl, rfl⟩
  | gas flow =>
      rw [tick, momentum_collide, momentum_collide]
      exact ⟨rfl, rfl⟩

/-
  At the border between two neighbours, what passes from
  behind to the front less what passes back is what both have
  sent there. If one of them is a wall, the other one gets
  back what it has sent, with the opposite sign.
-/
theorem received_sub_received
    (behind front : Cell)
    (d : Direction) :
    (front.received behind d : Int) -
        behind.received front d.opposite =
      2 * front.bounced behind d.opposite -
          front.sent d.opposite +
        (behind.sent d - 2 * behind.bounced front d) := by
  cases behind with
  | wall =>
      cases front with
      | wall => rfl
      | gas flow =>
          have hBack :
              (gas flow).received .wall d =
                (gas flow).sent d.opposite :=
            rfl
          simp only [hBack, received_wall, bounced,
            sent_wall]
          omega
  | gas other =>
      cases front with
      | wall =>
          have hBack :
              (gas other).received .wall d.opposite =
                (gas other).sent d := by
            rw [received, arrives_wall,
              Direction.opposite_opposite, sent]
          simp only [hBack, received_wall, bounced,
            sent_wall]
          omega
      | gas flow =>
          simp only [received, arrives, bounced, sent, has]
          omega

end Cell

end LatticeGas

------------------------------------------------------------
-- Lines of Sites
------------------------------------------------------------

namespace LatticeGas

namespace Plane

open Finset

variable {side : Nat}

/-
  On a line of sites between two walls, the net motion of what
  is received is that of what was sent, but for what the walls
  have thrown back at either end of a site.
-/
theorem sum_received_sub_received
    (line : Int → Cell)
    (d : Direction)
    (hFirst : line (-1) = .wall)
    (hLast : line side = .wall) :
    ∑ i ∈ range side,
        (((line i).received (line (i - 1)) d : Int) -
          (line i).received (line (i + 1)) d.opposite) =
      ∑ i ∈ range side,
        ((line i).momentum d +
          (2 * (line i).bounced (line (i - 1)) d.opposite -
            2 * (line i).bounced (line (i + 1)) d)) := by
  let fromFirst : Int → Int := fun i =>
    (line i).received (line (i - 1)) d
  let fromLast : Int → Int := fun i =>
    -(line i).received (line (i + 1)) d.opposite
  let atFirst : Int → Int := fun i =>
    2 * (line i).bounced (line (i - 1)) d.opposite -
      (line i).sent d.opposite
  let atLast : Int → Int := fun i =>
    (line i).sent d -
      2 * (line i).bounced (line (i + 1)) d
  have hFromFirst : fromFirst side = 0 := by
    simp [fromFirst, hLast]
  have hFromLast : fromLast (-1) = 0 := by
    simp [fromLast, hFirst]
  have hAtFirst : atFirst side = 0 := by
    simp [atFirst, hLast]
  have hAtLast : atLast (-1) = 0 := by
    simp [atLast, hFirst]
  have hBorder :
      ∀ i : Int,
        fromFirst i + fromLast (i - 1) =
          atFirst i + atLast (i - 1) := by
    intro i
    simp only [fromFirst, fromLast, atFirst, atLast,
      Int.sub_add_cancel, ← Int.sub_eq_add_neg]
    exact Cell.received_sub_received _ _ d
  calc ∑ i ∈ range side,
          (((line i).received (line (i - 1)) d : Int) -
            (line i).received (line (i + 1)) d.opposite)
      = ∑ i ∈ range side, (fromFirst i + fromLast i) := by
        simp only [fromFirst, fromLast, Int.sub_eq_add_neg]
    _ = ∑ i ∈ range (side + 1),
          (fromFirst i + fromLast (i - 1)) :=
        (sum_borders hFromFirst hFromLast).symm
    _ = ∑ i ∈ range (side + 1),
          (atFirst i + atLast (i - 1)) :=
        sum_congr rfl fun i _ => hBorder i
    _ = ∑ i ∈ range side, (atFirst i + atLast i) :=
        sum_borders hAtFirst hAtLast
    _ = _ := by
        refine sum_congr rfl fun i _ => ?_
        simp only [atFirst, atLast, Cell.momentum]
        omega

end Plane

end LatticeGas

------------------------------------------------------------
-- Squares of Sites
------------------------------------------------------------

namespace LatticeGas

namespace Plane

open Finset

/- The net motion along `d` in a square at the origin. -/
def momentumIn
    (side : Nat)
    (plane : Plane)
    (d : Direction) : Int :=
  ∑ y ∈ range side, ∑ x ∈ range side,
    (plane x y).momentum d

/-
  The number of particles in a square at the origin that move
  along `d` against a wall.
-/
def bouncedIn
    (side : Nat)
    (plane : Plane)
    (d : Direction) : Nat :=
  ∑ y ∈ range side, ∑ x ∈ range side,
    (plane x y).bounced (plane.ahead x y d) d

variable {side : Nat}
variable {plane : Plane}

/- The motion of a square, and what is thrown back in it. -/
theorem sum_momentum_add_bounced
    (plane : Plane)
    (d : Direction) :
    ∑ y ∈ range side, ∑ x ∈ range side,
        ((plane x y).momentum d +
          (2 * (plane x y).bounced
              (plane.ahead x y d.opposite) d.opposite -
            2 * (plane x y).bounced
              (plane.ahead x y d) d)) =
      momentumIn side plane d +
        (2 * bouncedIn side plane d.opposite -
          2 * bouncedIn side plane d) := by
  unfold momentumIn bouncedIn
  simp only [sum_add_distrib, sum_sub_distrib, mul_sum,
    Nat.cast_sum]

/- Along the first axis, the balance holds in every row. -/
theorem WalledOutside.momentumIn_tick_x
    (hWalled : plane.WalledOutside side) :
    momentumIn side plane.tick .xPos =
      momentumIn side plane .xPos +
        (2 * bouncedIn side plane .xNeg -
          2 * bouncedIn side plane .xPos) := by
  refine Eq.trans ?_ (sum_momentum_add_bounced plane .xPos)
  simp only [momentumIn, tick, Cell.momentum_tick]
  refine sum_congr rfl fun y _ => ?_
  have hFirst : plane (-1) y = .wall :=
    hWalled _ _ (by omega)
  have hLast : plane side y = .wall :=
    hWalled _ _ (by omega)
  refine (sum_received_sub_received (fun x => plane x y)
    .xPos hFirst hLast).trans ?_
  simp only [ahead, Direction.dx, Direction.dy,
    Int.add_zero, Int.sub_eq_add_neg, Direction.opposite]

/- Along the second axis, it holds in every column. -/
theorem WalledOutside.momentumIn_tick_y
    (hWalled : plane.WalledOutside side) :
    momentumIn side plane.tick .yPos =
      momentumIn side plane .yPos +
        (2 * bouncedIn side plane .yNeg -
          2 * bouncedIn side plane .yPos) := by
  refine Eq.trans ?_ (sum_momentum_add_bounced plane .yPos)
  simp only [momentumIn, tick, Cell.momentum_tick]
  refine sum_comm.trans
    (Eq.trans (sum_congr rfl fun x _ => ?_) sum_comm)
  have hFirst : plane x (-1) = .wall :=
    hWalled _ _ (by omega)
  have hLast : plane x side = .wall :=
    hWalled _ _ (by omega)
  refine (sum_received_sub_received (fun y => plane x y)
    .yPos hFirst hLast).trans ?_
  simp only [ahead, Direction.dx, Direction.dy,
    Int.add_zero, Int.sub_eq_add_neg, Direction.opposite]

end Plane

end LatticeGas

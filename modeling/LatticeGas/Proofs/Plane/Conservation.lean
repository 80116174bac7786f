import Mathlib.Algebra.BigOperators.Group.Finset.Sigma
import Mathlib.Algebra.Group.Nat.Even
import Mathlib.Algebra.Order.BigOperators.Group.Finset
import LatticeGas.Proofs.Plane.Walls

/-
  This file shows that no particle is made or lost as long as
  there are walls around. Two neighbours on a line exchange
  particles with each other: what both of them get from the
  border between them is what both have sent there.

  Key definitions include:
    * `Cell.sent`
    * `Cell.received`
    * `Plane.particlesIn`

  Key theorems include:
    * `Cell.received_add_received`
    * `Plane.sum_received_eq_sum_sent`
    * `Plane.particlesIn_run`
-/

------------------------------------------------------------
-- Particles Sent and Received
------------------------------------------------------------

namespace LatticeGas

namespace Cell

/- The number of particles that a site sends along `d`. -/
def sent
    (own : Cell)
    (d : Direction) : Nat :=
  (own.has d).toNat

/-
  The number of particles that move along `d` when they have
  come to a site from the neighbour behind it.
-/
def received : (own behind : Cell) → Direction → Nat
| .wall, _, _ => 0
| .gas flow, behind, d =>
    ((Cell.gas flow).arrives behind d).toNat

@[simp] theorem sent_wall
    (d : Direction) :
    Cell.wall.sent d = 0 :=
  rfl

@[simp] theorem received_wall
    (behind : Cell)
    (d : Direction) :
    Cell.wall.received behind d = 0 :=
  rfl

/- All particles of a site are sent in some direction. -/
theorem particleCount_eq_sent
    (cell : Cell) :
    cell.particleCount =
      cell.sent .xPos + cell.sent .xNeg +
        (cell.sent .yPos + cell.sent .yNeg) := by
  cases cell with
  | wall => rfl
  | gas flow =>
      simp only [particleCount, Flow.particleCount, sent,
        has, Flow.has]
      omega

/- There is room for one particle in each direction. -/
theorem particleCount_le
    (cell : Cell) :
    cell.particleCount ≤ 4 := by
  have hSent := fun d => Bool.toNat_le (cell.has d)
  have hLeft := hSent .xNeg
  have hRight := hSent .xPos
  have hBottom := hSent .yNeg
  have hTop := hSent .yPos
  rw [particleCount_eq_sent]
  unfold sent
  omega

/- After a tick a site holds what it has received. -/
theorem particleCount_tick
    (left right bottom top own : Cell) :
    (tick left right bottom top own).particleCount =
      own.received left .xPos + own.received right .xNeg +
        (own.received bottom .yPos +
          own.received top .yNeg) := by
  cases own with
  | wall => rfl
  | gas flow =>
      rw [tick, particleCount, Flow.particleCount_collide]
      simp only [Flow.particleCount, arrivals, received]
      omega

/-
  What two neighbours get from the border between them is
  what they have sent there. If one of them is a wall, the
  other one gets back what it has sent itself.
-/
theorem received_add_received
    (behind front : Cell)
    (d : Direction) :
    front.received behind d +
        behind.received front d.opposite =
      behind.sent d + front.sent d.opposite := by
  cases behind with
  | wall =>
      cases front with
      | wall => rfl
      | gas flow =>
          simp [received, sent, arrives, has]
  | gas other =>
      cases front with
      | wall =>
          simp [received, sent, arrives, has]
      | gas flow => rfl

end Cell

end LatticeGas

------------------------------------------------------------
-- Lines of Sites
------------------------------------------------------------

namespace LatticeGas

namespace Plane

open Finset

variable {side : Nat}

/-
  Two amounts for every site, one for each of its borders, are
  added up border by border. The first and the last border
  have a site on one side only.
-/
theorem sum_borders
    {M : Type}
    [AddCommMonoid M]
    {atFirst atLast : Int → M}
    (hFirst : atFirst side = 0)
    (hLast : atLast (-1) = 0) :
    ∑ i ∈ range (side + 1), (atFirst i + atLast (i - 1)) =
      ∑ i ∈ range side, (atFirst i + atLast i) := by
  rw [sum_add_distrib, sum_add_distrib]
  congr 1
  · rw [sum_range_succ, hFirst, add_zero]
  · rw [sum_range_succ']
    simp only [Int.natCast_add, Int.natCast_one,
      Int.add_sub_cancel, Int.natCast_zero, Int.zero_sub,
      hLast, add_zero]

/-
  On a line of sites between two walls, as many particles are
  received as are sent. The sums are rearranged so that they
  go over the borders between neighbours.
-/
theorem sum_received_eq_sum_sent
    (line : Int → Cell)
    (d : Direction)
    (hFirst : line (-1) = .wall)
    (hLast : line side = .wall) :
    ∑ i ∈ range side,
        ((line i).received (line (i - 1)) d +
          (line i).received (line (i + 1)) d.opposite) =
      ∑ i ∈ range side,
        ((line i).sent d + (line i).sent d.opposite) := by
  let fromFirst : Int → Nat := fun i =>
    (line i).received (line (i - 1)) d
  let fromLast : Int → Nat := fun i =>
    (line i).received (line (i + 1)) d.opposite
  let toLast : Int → Nat := fun i =>
    (line i).sent d
  let toFirst : Int → Nat := fun i =>
    (line i).sent d.opposite
  have hFromFirst : fromFirst side = 0 := by
    simp only [fromFirst, hLast, Cell.received_wall]
  have hFromLast : fromLast (-1) = 0 := by
    simp only [fromLast, hFirst, Cell.received_wall]
  have hToLast : toLast (-1) = 0 := by
    simp only [toLast, hFirst, Cell.sent_wall]
  have hToFirst : toFirst side = 0 := by
    simp only [toFirst, hLast, Cell.sent_wall]
  have hBorder :
      ∀ i : Int,
        fromFirst i + fromLast (i - 1) =
          toFirst i + toLast (i - 1) := by
    intro i
    simp only [fromFirst, fromLast, toLast, toFirst,
      Int.sub_add_cancel]
    rw [Cell.received_add_received, Nat.add_comm]
  calc ∑ i ∈ range side, (fromFirst i + fromLast i)
      = ∑ i ∈ range (side + 1),
          (fromFirst i + fromLast (i - 1)) :=
        (sum_borders hFromFirst hFromLast).symm
    _ = ∑ i ∈ range (side + 1),
          (toFirst i + toLast (i - 1)) :=
        sum_congr rfl fun i _ => hBorder i
    _ = ∑ i ∈ range side, (toFirst i + toLast i) :=
        sum_borders hToFirst hToLast
    _ = ∑ i ∈ range side, (toLast i + toFirst i) := by
        simp only [Nat.add_comm]

end Plane

end LatticeGas

------------------------------------------------------------
-- Squares of Sites
------------------------------------------------------------

namespace LatticeGas

namespace Plane

open Finset

variable {side : Nat}

/- The number of particles in a square at the origin. -/
def particlesIn
    (side : Nat)
    (plane : Plane) : Nat :=
  ∑ y ∈ range side, ∑ x ∈ range side,
    (plane x y).particleCount

/- There are at most four particles for each site. -/
theorem particlesIn_le
    (side : Nat)
    (plane : Plane) :
    particlesIn side plane ≤ side * (side * 4) := by
  have hRow :
      ∀ y : Nat,
        ∑ x ∈ range side, (plane x y).particleCount ≤
          side * 4 := by
    intro y
    have hSum := sum_le_card_nsmul (range side)
      (fun x : Nat => (plane x y).particleCount) 4
      fun x _ => (plane x y).particleCount_le
    rwa [card_range, Nat.nsmul_eq_mul] at hSum
  have hSum := sum_le_card_nsmul (range side) _ _
    fun y _ => hRow y
  rwa [card_range, Nat.nsmul_eq_mul] at hSum

/- One part is summed up by rows, the other by columns. -/
theorem sum_rows_add_columns
    (inRow inColumn : Nat → Nat → Nat) :
    ∑ y ∈ range side, ∑ x ∈ range side,
        (inRow x y + inColumn x y) =
      ∑ y ∈ range side, ∑ x ∈ range side, inRow x y +
        ∑ x ∈ range side, ∑ y ∈ range side,
          inColumn x y := by
  rw [sum_comm (s := range side) (f := inColumn)]
  simp only [sum_add_distrib]

/-
  Rows exchange particles along the first axis and columns
  along the second one.
-/
theorem WalledOutside.particlesIn_tick
    {plane : Plane}
    (hWalled : plane.WalledOutside side) :
    particlesIn side plane.tick = particlesIn side plane := by
  have hRow :
      ∀ y : Nat,
        ∑ x ∈ range side,
            ((plane x y).received (plane (x - 1) y) .xPos +
              (plane x y).received (plane (x + 1) y)
                .xNeg) =
          ∑ x ∈ range side,
            ((plane x y).sent .xPos +
              (plane x y).sent .xNeg) :=
    fun y =>
      sum_received_eq_sum_sent (fun x => plane x y) .xPos
        (hWalled _ _ (by omega)) (hWalled _ _ (by omega))
  have hColumn :
      ∀ x : Nat,
        ∑ y ∈ range side,
            ((plane x y).received (plane x (y - 1)) .yPos +
              (plane x y).received (plane x (y + 1))
                .yNeg) =
          ∑ y ∈ range side,
            ((plane x y).sent .yPos +
              (plane x y).sent .yNeg) :=
    fun x =>
      sum_received_eq_sum_sent (fun y => plane x y) .yPos
        (hWalled _ _ (by omega)) (hWalled _ _ (by omega))
  unfold particlesIn
  simp only [tick, Cell.particleCount_tick]
  rw [sum_rows_add_columns, sum_congr rfl fun y _ => hRow y,
    sum_congr rfl fun x _ => hColumn x,
    ← sum_rows_add_columns]
  simp only [Cell.particleCount_eq_sent]

/- The number of particles is the same at all times. -/
theorem WalledOutside.particlesIn_run
    {plane : Plane}
    (hWalled : plane.WalledOutside side)
    (ticks : Nat) :
    particlesIn side (Plane.run ticks plane) =
      particlesIn side plane := by
  induction ticks generalizing plane with
  | zero => rfl
  | succ ticks ih =>
      have hTick : plane.tick.WalledOutside side :=
        hWalled.run 1
      rw [Plane.run, ih hTick, hWalled.particlesIn_tick]

end Plane

end LatticeGas

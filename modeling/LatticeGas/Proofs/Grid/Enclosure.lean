import LatticeGas.Proofs.Grid.Influence

/-
  This file shows that explicit walls do the same as the edge
  of a grid. A grid that stands in a window of a larger one,
  with walls next to the window, behaves there as it does on
  its own, whatever the larger grid holds elsewhere.

  Key definitions include:
    * `Plane.InSquare`
    * `Plane.NextTo`
    * `Plane.Framed`
    * `Grid.Encloses`

  Key theorems include:
    * `Plane.tick_eq_of_framed`
    * `Plane.run_eq_of_framed`
    * `Grid.encloses_stepMany`
-/

------------------------------------------------------------
-- Framed Squares
------------------------------------------------------------

namespace LatticeGas

/- There are no more than four directions. -/
theorem Direction.exists_iff
    {holds : Direction → Prop} :
    (∃ d, holds d) ↔
      holds .xNeg ∨ holds .xPos ∨
        holds .yNeg ∨ holds .yPos := by
  constructor
  · rintro ⟨d, hHolds⟩
    cases d <;> simp only [hHolds, true_or, or_true]
  · rintro (hHolds | hHolds | hHolds | hHolds)
    · exact ⟨.xNeg, hHolds⟩
    · exact ⟨.xPos, hHolds⟩
    · exact ⟨.yNeg, hHolds⟩
    · exact ⟨.yPos, hHolds⟩

namespace Plane

/- The site belongs to the square at the origin. -/
def InSquare
    (side : Nat)
    (x y : Int) : Prop :=
  0 ≤ x ∧ x < side ∧ 0 ≤ y ∧ y < side

/-
  The site does not belong to the square at the origin, but
  the next site in one of the four directions does.
-/
def NextTo
    (side : Nat)
    (x y : Int) : Prop :=
  ¬ InSquare side x y ∧
    ∃ d : Direction, InSquare side (x + d.dx) (y + d.dy)

instance
    (side : Nat)
    (x y : Int) :
    Decidable (InSquare side x y) := by
  unfold InSquare
  infer_instance

/- There are four ways to lie next to a square. -/
theorem nextTo_iff
    (side : Nat)
    (x y : Int) :
    NextTo side x y ↔
      ¬ InSquare side x y ∧
        (InSquare side (x - 1) y ∨ InSquare side (x + 1) y ∨
          InSquare side x (y - 1) ∨
          InSquare side x (y + 1)) := by
  simp only [NextTo, Direction.exists_iff, Direction.dx,
    Direction.dy, Int.add_zero, Int.sub_eq_add_neg]

instance
    (side : Nat)
    (x y : Int) :
    Decidable (NextTo side x y) :=
  decidable_of_iff _ (nextTo_iff side x y).symm

/- All sites next to the square at the origin are walls. -/
def Framed
    (plane : Plane)
    (side : Nat) : Prop :=
  ∀ x y : Int, NextTo side x y → plane x y = .wall

/- Both planes show the same in the square at the origin. -/
def EqualWithin
    (side : Nat)
    (left right : Plane) : Prop :=
  ∀ x y : Int, InSquare side x y → left x y = right x y

variable {plane left right : Plane}
variable {side : Nat}

/- From a square one only gets to the sites next to it. -/
theorem nextTo_of_leaves
    {x y : Int}
    (hInside : InSquare side x y)
    {d : Direction}
    (hLeaves : ¬ InSquare side (x + d.dx) (y + d.dy)) :
    NextTo side (x + d.dx) (y + d.dy) := by
  refine ⟨hLeaves, d.opposite, ?_⟩
  rwa [Direction.dx_opposite, Direction.dy_opposite,
    Int.add_neg_cancel_right, Int.add_neg_cancel_right]

/- Where everything else is a wall, so are those sites. -/
theorem WalledOutside.framed
    (hWalled : plane.WalledOutside side) :
    plane.Framed side :=
  fun x y hNext => hWalled x y hNext.1

/- A frame lasts, since walls do. -/
theorem Framed.tick
    (hFramed : plane.Framed side) :
    plane.tick.Framed side :=
  fun x y hNext =>
    (tick_eq_wall_iff plane x y).mpr (hFramed x y hNext)

/-
  In one tick no site of a framed square learns what is
  beyond the frame. A neighbour belongs to the square, or it
  is a wall on both planes.
-/
theorem tick_eq_of_framed
    (hLeft : left.Framed side)
    (hRight : right.Framed side)
    (hEqual : EqualWithin side left right) :
    EqualWithin side left.tick right.tick := by
  intro x y hInside
  refine tick_congr (hEqual x y hInside) fun _ d => ?_
  by_cases hNext : InSquare side (x + d.dx) (y + d.dy)
  · exact hEqual _ _ hNext
  · have hFrame := nextTo_of_leaves hInside hNext
    exact (hLeft _ _ hFrame).trans (hRight _ _ hFrame).symm

/- And so it is in any number of ticks. -/
theorem run_eq_of_framed
    (hLeft : left.Framed side)
    (hRight : right.Framed side)
    (hEqual : EqualWithin side left right)
    (ticks : Nat) :
    EqualWithin side (run ticks left) (run ticks right) := by
  induction ticks generalizing left right with
  | zero => exact hEqual
  | succ ticks ih =>
      exact ih hLeft.tick hRight.tick
        (tick_eq_of_framed hLeft hRight hEqual)

end Plane

end LatticeGas

------------------------------------------------------------
-- Windows of Grids
------------------------------------------------------------

namespace LatticeGas

namespace Grid

/-
  The window of the larger grid with its lower corner at
  `(a, b)` shows the smaller grid, and all sites of the
  larger grid next to the window are walls.
-/
structure Encloses
    (large small : Grid)
    (a b : Nat) : Prop where
  fits_x : a + small.side ≤ large.side
  fits_y : b + small.side ≤ large.side
  cellAt_eq :
    ∀ x y : Nat,
      small.Inside x y →
        large.cellAt (a + x) (b + y) = small.cellAt x y
  walled :
    ∀ x y : Nat,
      large.Inside x y →
        Plane.NextTo small.side (x - a) (y - b) →
          large.cellAt x y = .ok .wall

variable {large small : Grid}
variable {a b : Nat}

/- Seen from the corner of the window, it is framed. -/
theorem Encloses.framed
    (hEncloses : large.Encloses small a b) :
    (large.plane.shift a b).Framed small.side := by
  intro x y hNext
  change large.plane (a + x) (b + y) = .wall
  by_contra hGas
  rcases exists_inside hGas with ⟨u, v, hu, hv, hInside⟩
  have hSite : Plane.NextTo small.side (u - a) (v - b) := by
    rwa [← hu, ← hv, Int.add_comm a, Int.add_comm b,
      Int.add_sub_cancel, Int.add_sub_cancel]
  have hWall := hEncloses.walled u v hInside hSite
  rw [hu, hv] at hGas
  exact hGas (plane_of_cellAt hWall).2

/- There it shows what the smaller grid shows. -/
theorem Encloses.equalWithin
    (hEncloses : large.Encloses small a b) :
    Plane.EqualWithin small.side
      (large.plane.shift a b) small.plane := by
  intro x y hInside
  rcases hInside with ⟨hx, hxSide, hy, hySide⟩
  lift x to Nat using hx
  lift y to Nat using hy
  have hSmall : small.Inside x y :=
    ⟨by omega, by omega⟩
  have hFitsX := hEncloses.fits_x
  have hFitsY := hEncloses.fits_y
  have hLarge : large.Inside (a + x) (b + y) :=
    ⟨by omega, by omega⟩
  have hCell := hEncloses.cellAt_eq x y hSmall
  rw [cellAt_eq_plane large hLarge.1 hLarge.2,
    cellAt_eq_plane small hSmall.1 hSmall.2] at hCell
  exact Except.ok.inj hCell

/-
  A grid with a frame of walls around it is as good as one
  that ends there. In any number of ticks the window of the
  larger grid goes on showing the smaller grid, and the sites
  next to the window stay walls. Where the window touches the
  edge of the larger grid, no walls are needed.
-/
theorem encloses_stepMany
    (hEncloses : large.Encloses small a b)
    (ticks : Nat) :
    (large.stepMany ticks).Encloses
      (small.stepMany ticks) a b := by
  have hEqual :=
    Plane.run_eq_of_framed hEncloses.framed
      small.walledOutside_plane.framed
      hEncloses.equalWithin ticks
  rw [Plane.run_shift] at hEqual
  have hFitsX := hEncloses.fits_x
  have hFitsY := hEncloses.fits_y
  constructor
  · rwa [side_stepMany, side_stepMany]
  · rwa [side_stepMany, side_stepMany]
  · intro x y hSite
    rw [Inside, side_stepMany] at hSite
    have hCell := hEqual x y ⟨by omega, by omega,
      by omega, by omega⟩
    rw [cellAt_stepMany large ticks (by omega) (by omega),
      cellAt_stepMany small ticks hSite.1 hSite.2, ← hCell]
    rfl
  · intro x y hSite hNext
    rw [Inside, side_stepMany] at hSite
    rw [side_stepMany] at hNext
    exact (cellAt_stepMany_eq_wall_iff large ticks x y).mpr
      (hEncloses.walled x y hSite hNext)

/- Two open rows, and a wall that cuts one of them short. -/
def alcove : Grid :=
  let rows : List (List Cell) :=
    [[.lone .xPos, .wall],
      [.headOnX, .lone .yPos]]
  have hSide : 0 < rows.length := by simp [rows]
  have hRows : ∀ row ∈ rows, row.length = rows.length := by
    simp [rows]
  Grid.ofBoard hSide (Board.ofRows rows hRows) none

/-
  The same two rows at the lower edge of a larger grid. Walls
  part them from a crowd in which every site is full.
-/
def crowdedAlcove : Grid :=
  let full : Cell := .gas (Flow.ofFn fun _ => true)
  let rows : List (List Cell) :=
    [[.wall, .lone .xPos, .wall, .wall],
      [.wall, .headOnX, .lone .yPos, .wall],
      [full, .wall, .wall, full],
      [full, full, full, full]]
  have hSide : 0 < rows.length := by simp [rows]
  have hRows : ∀ row ∈ rows, row.length = rows.length := by
    simp [rows]
  Grid.ofBoard hSide (Board.ofRows rows hRows) none

/- The crowd makes no difference, and neither does the edge. -/
theorem encloses_stepMany_crowdedAlcove :
    crowdedAlcove.Encloses alcove 1 0 ∧
      (crowdedAlcove.stepMany 9).Encloses
        (alcove.stepMany 9) 1 0 := by
  have hCells :
      ∀ x < 2, ∀ y < 2,
        crowdedAlcove.cellAt (1 + x) (0 + y) =
          alcove.cellAt x y := by
    decide
  have hWalls :
      ∀ x : Nat, x < 4 → ∀ y : Nat, y < 4 →
        Plane.NextTo 2 (x - (1 : Nat)) (y - (0 : Nat)) →
          crowdedAlcove.cellAt x y = .ok .wall := by
    decide
  have hEncloses : crowdedAlcove.Encloses alcove 1 0 :=
    { fits_x := by decide
      fits_y := by decide
      cellAt_eq := fun x y hSite =>
        hCells x hSite.1 y hSite.2
      walled := fun x y hSite =>
        hWalls x hSite.1 y hSite.2 }
  exact ⟨hEncloses, encloses_stepMany hEncloses 9⟩

end Grid

end LatticeGas

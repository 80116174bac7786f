import LatticeGas.Grid.Step
import LatticeGas.Proofs.Plane.Walls

/-
  This file shows that a tick of a grid is a tick of the
  plane around it, in whatever order its rows are computed
  and whatever the second board holds before.

  Key theorems include:
    * `Board.read_stepRows`
    * `Board.plane_stepRows`
    * `Grid.mem_schedule`
    * `Grid.plane_stepMany`
    * `Grid.cellAt_stepMany`
    * `Grid.cellAt_stepMany_eq_wall_iff`
-/

------------------------------------------------------------
-- Rows of Boards
------------------------------------------------------------

namespace LatticeGas

namespace Board

variable {side : Nat}

/- Some sites of one row are overwritten, the rest stays. -/
theorem read_foldl_write
    (row : Nat → Cell)
    {y : Nat}
    (hy : y < side)
    (sites : List Nat)
    (hSites : ∀ x ∈ sites, x < side)
    (board : Board side)
    (x' y' : Nat) :
    (sites.foldl
        (fun board x => board.write x y (row x))
        board).read x' y' =
      if x' ∈ sites ∧ y' = y then row x'
      else board.read x' y' := by
  induction sites generalizing board with
  | nil => simp
  | cons x sites ih =>
      have hx : x < side := hSites x (by simp)
      have hRest : ∀ other ∈ sites, other < side :=
        fun other hOther => hSites other (by simp [hOther])
      rw [List.foldl_cons, ih hRest,
        read_write board (row x) ⟨hx, hy⟩]
      by_cases hRow : y' = y
      · by_cases hMem : x' ∈ sites
        · simp [hRow, hMem]
        · by_cases hSame : x' = x
          · simp [hRow, hSame]
          · simp [hRow, hMem, hSame]
      · simp [hRow]

theorem read_writeRow
    (row : Nat → Cell)
    {y : Nat}
    (hy : y < side)
    (board : Board side)
    {x' : Nat}
    (hx' : x' < side)
    (y' : Nat) :
    (board.writeRow row y).read x' y' =
      if y' = y then row x' else board.read x' y' := by
  unfold writeRow
  rw [read_foldl_write row hy (List.range side)
    (fun x hx => List.mem_range.mp hx)]
  simp [hx']

/-
  The tasks of some rows bring these rows up to date. They
  do not read the board that they write, so neither their
  order nor what was there before them matters.
-/
theorem read_stepRows
    (current : Board side)
    (order : List Nat)
    (hOrder : ∀ y ∈ order, y < side)
    (buffer : Board side)
    {x' : Nat}
    (hx' : x' < side)
    (y' : Nat) :
    (current.stepRows order buffer).read x' y' =
      if y' ∈ order then current.next x' y'
      else buffer.read x' y' := by
  unfold stepRows
  induction order generalizing buffer with
  | nil => simp
  | cons y order ih =>
      have hy : y < side := hOrder y (by simp)
      have hRest : ∀ other ∈ order, other < side :=
        fun other hOther => hOrder other (by simp [hOther])
      rw [List.foldl_cons, ih hRest, stepRow,
        read_writeRow _ hy buffer hx']
      by_cases hMem : y' ∈ order
      · simp [hMem]
      · by_cases hSame : y' = y
        · simp [hSame]
        · simp [hMem, hSame]

end Board

end LatticeGas

------------------------------------------------------------
-- Boards in the Plane
------------------------------------------------------------

namespace LatticeGas

namespace Board

variable {side : Nat}

/- A board in the plane is its cells with walls around. -/
theorem plane_eq_ofCells
    (board : Board side) :
    board.plane = Plane.ofCells side board.read := by
  funext x y
  unfold plane Plane.ofCells
  by_cases hInside :
      0 ≤ x ∧ x < side ∧ 0 ≤ y ∧ y < side
  · rw [if_pos hInside, if_pos ⟨hInside.1, hInside.2.2.1⟩]
  · rw [if_neg hInside]
    by_cases hCorner : 0 ≤ x ∧ 0 ≤ y
    · rw [if_pos hCorner]
      exact read_outside board (by omega)
    · rw [if_neg hCorner]

theorem plane_natCast
    (board : Board side)
    (x y : Nat) :
    board.plane x y = board.read x y := by
  have hCorner : (0 : Int) ≤ x ∧ (0 : Int) ≤ y := by omega
  simp only [plane, if_pos hCorner, Int.toNat_natCast]

/- Before the first row and column there are walls. -/
theorem plane_pred
    (board : Board side)
    (x y : Nat) :
    board.plane (x - 1) y =
        (if x = 0 then .wall else board.read (x - 1) y) ∧
      board.plane x (y - 1) =
        (if y = 0 then .wall else board.read x (y - 1)) := by
  constructor
  · by_cases hx : x = 0
    · simp [plane, hx]
    · have hCast : (x : Int) - 1 = ((x - 1 : Nat) : Int) := by
        omega
      rw [if_neg hx, hCast, plane_natCast]
  · by_cases hy : y = 0
    · simp [plane, hy]
    · have hCast : (y : Int) - 1 = ((y - 1 : Nat) : Int) := by
        omega
      rw [if_neg hy, hCast, plane_natCast]

/- The next cell of a site is its cell one tick later. -/
theorem next_eq_tick
    (board : Board side)
    (x y : Nat) :
    board.next x y = board.plane.tick x y := by
  unfold next Plane.tick
  rw [(plane_pred board x y).1, (plane_pred board x y).2,
    plane_natCast board x y, ← plane_natCast board (x + 1) y,
    ← plane_natCast board x (y + 1)]
  rfl

/- When all rows are up to date, a tick has passed. -/
theorem plane_stepRows
    (current : Board side)
    {order : List Nat}
    (hOrder : ∀ y, y ∈ order ↔ y < side)
    (buffer : Board side) :
    (current.stepRows order buffer).plane =
      current.plane.tick := by
  have hWalled : current.plane.tick.WalledOutside side := by
    rw [plane_eq_ofCells]
    exact (Plane.walledOutside_ofCells side _).run 1
  rw [plane_eq_ofCells, ← hWalled.ofCells_eq]
  apply Plane.ofCells_congr
  intro x y hx hy
  rw [read_stepRows current order
    (fun y hy => (hOrder y).mp hy) buffer hx,
    if_pos ((hOrder y).mpr hy), next_eq_tick]

end Board

end LatticeGas

------------------------------------------------------------
-- Ticks of Grids
------------------------------------------------------------

namespace LatticeGas

namespace Grid

/- The rows that are dealt out are all the rows there are. -/
theorem mem_schedule
    (grid : Grid)
    (y : Nat) :
    y ∈ grid.schedule ↔ y < grid.side := by
  unfold schedule
  cases grid.workers with
  | none => simp
  | some workers =>
      have hHands : 0 < max 1 (min workers grid.side) := by
        omega
      simp only [rowsOfWorker, List.mem_flatMap,
        List.mem_filter, List.mem_range, decide_eq_true_eq]
      constructor
      · rintro ⟨worker, -, hy, -⟩
        exact hy
      · intro hy
        exact ⟨_, Nat.mod_lt y hHands, hy, rfl⟩

/- A tick in any order of all rows is a tick of the plane. -/
theorem plane_stepInOrder
    (grid : Grid)
    {order : List Nat}
    (hOrder : ∀ y, y ∈ order ↔ y < grid.side) :
    (grid.stepInOrder order).plane = grid.plane.tick := by
  rcases grid with
    ⟨side, side_pos, timestep, cells, scratch, workers⟩
  exact cells.plane_stepRows hOrder scratch

theorem plane_step
    (grid : Grid) :
    grid.step.plane = grid.plane.tick :=
  grid.plane_stepInOrder grid.mem_schedule

@[simp] theorem side_stepMany
    (ticks : Nat)
    (grid : Grid) :
    (grid.stepMany ticks).side = grid.side := by
  induction ticks generalizing grid with
  | zero => rfl
  | succ ticks ih =>
      rw [stepMany, ih, step, side_stepInOrder]

/- The ticks of a grid are those of the plane around it. -/
theorem plane_stepMany
    (ticks : Nat)
    (grid : Grid) :
    (grid.stepMany ticks).plane =
      Plane.run ticks grid.plane := by
  induction ticks generalizing grid with
  | zero => rfl
  | succ ticks ih =>
      rw [stepMany, ih, plane_step, Plane.run]

/- The cells of a grid are those of the plane around it. -/
theorem cellAt_eq_plane
    (grid : Grid)
    {x y : Nat}
    (hx : x < grid.side)
    (hy : y < grid.side) :
    grid.cellAt x y = .ok (grid.plane x y) := by
  have hInside : grid.Inside x y := ⟨hx, hy⟩
  simp only [cellAt, if_pos hInside, plane,
    Board.plane_natCast]

/- Around it there are walls. -/
theorem walledOutside_plane
    (grid : Grid) :
    grid.plane.WalledOutside grid.side := by
  unfold plane
  rw [Board.plane_eq_ofCells]
  exact Plane.walledOutside_ofCells _ _

/- A cell that is read is there in the plane. -/
theorem plane_of_cellAt
    {grid : Grid}
    {x y : Nat}
    {cell : Cell}
    (hCell : grid.cellAt x y = .ok cell) :
    grid.Inside x y ∧ grid.plane x y = cell := by
  by_cases hInside : grid.Inside x y
  · rw [cellAt_eq_plane grid hInside.1 hInside.2] at hCell
    exact ⟨hInside, Except.ok.inj hCell⟩
  · rw [cellAt, if_neg hInside] at hCell
    cases hCell

/- What is no wall is inside of the grid. -/
theorem exists_inside
    {grid : Grid}
    {u v : Int}
    (hGas : grid.plane u v ≠ .wall) :
    ∃ x y : Nat, u = x ∧ v = y ∧ grid.Inside x y := by
  have hInside :
      0 ≤ u ∧ u < grid.side ∧ 0 ≤ v ∧ v < grid.side :=
    Classical.not_not.mp fun hOutside =>
      hGas (grid.walledOutside_plane u v hOutside)
  exact ⟨u.toNat, v.toNat, by omega, by omega, by omega,
    by omega⟩

theorem cellAt_stepMany
    (grid : Grid)
    (ticks : Nat)
    {x y : Nat}
    (hx : x < grid.side)
    (hy : y < grid.side) :
    (grid.stepMany ticks).cellAt x y =
      .ok (Plane.run ticks grid.plane x y) := by
  rw [cellAt_eq_plane _ (by simpa using hx)
    (by simpa using hy), plane_stepMany]

/- Walls neither appear nor disappear. -/
theorem cellAt_stepMany_eq_wall_iff
    (grid : Grid)
    (ticks x y : Nat) :
    (grid.stepMany ticks).cellAt x y = .ok .wall ↔
      grid.cellAt x y = .ok .wall := by
  by_cases hInside : grid.Inside x y
  · rw [cellAt_stepMany grid ticks hInside.1 hInside.2,
      cellAt_eq_plane grid hInside.1 hInside.2,
      Except.ok.injEq, Except.ok.injEq,
      Plane.run_eq_wall_iff]
  · have hLater : ¬ (grid.stepMany ticks).Inside x y := by
      rwa [Inside, side_stepMany]
    simp only [cellAt, if_neg hInside, if_neg hLater,
      reduceCtorEq]

end Grid

end LatticeGas

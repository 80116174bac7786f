import Mathlib.Data.Finset.Option
import Mathlib.Data.Finset.Union
import LatticeGas.Proofs.Grid.Neighbours

/-
  This file shows how far the cells of a grid make themselves
  felt. What a site holds after some ticks is settled by the
  sites from which a particle could have come in that time:
  one site further with each tick, and never through a wall.

  Key definitions include:
    * `Grid.sources`
    * `Grid.cone`

  Key theorems include:
    * `Grid.cone_step`
    * `Grid.distance_le_of_mem_cone`
    * `Grid.cellAt_step_congr`
    * `Grid.cellAt_stepMany_of_cone`
-/

------------------------------------------------------------
-- What a Tick Reads
------------------------------------------------------------

namespace LatticeGas

namespace Plane

variable {left right : Plane}
variable {x y : Int}

/- A tick reads the neighbours of a site without a wall. -/
theorem tick_congr
    (hOwn : left x y = right x y)
    (hAhead :
      left x y ≠ .wall →
        ∀ d, left.ahead x y d = right.ahead x y d) :
    left.tick x y = right.tick x y := by
  by_cases hWall : left x y = .wall
  · have hWall' : right x y = .wall := hOwn ▸ hWall
    rw [(tick_eq_wall_iff left x y).mpr hWall,
      (tick_eq_wall_iff right x y).mpr hWall']
  · have hGas : right x y ≠ .wall := hOwn ▸ hWall
    have hInflow : left.inflow x y = right.inflow x y := by
      simp only [inflow, hOwn, hAhead hWall]
    rw [tick_eq_inflow left hWall, tick_eq_inflow right hGas,
      hInflow]

end Plane

namespace Grid

/- The sites from which particles may come in one tick. -/
def sources
    (grid : Grid)
    (site : Nat × Nat) : Finset (Nat × Nat) :=
  match grid.cells.read site.1 site.2 with
  | .wall => ∅
  | .gas _ =>
      ({.xNeg, .xPos, .yNeg, .yPos} :
          Finset Direction).biUnion
        fun d => (neighbour? grid.side site d).toFinset

variable {grid left right : Grid}
variable {site next : Nat × Nat}

theorem mem_sources_iff :
    next ∈ grid.sources site ↔
      grid.cells.read site.1 site.2 ≠ .wall ∧
        ∃ d, neighbour? grid.side site d = some next := by
  unfold sources
  cases grid.cells.read site.1 site.2 with
  | wall => simp
  | gas flow =>
      have hAll :
          ∀ d : Direction,
            d ∈ ({.xNeg, .xPos, .yNeg, .yPos} :
              Finset Direction) := by
        intro d
        cases d <;> decide
      simp only [Finset.mem_biUnion, Option.mem_toFinset,
        Option.mem_def, hAll, true_and, ne_eq, reduceCtorEq,
        not_false_eq_true]

/- Grids agree at a site if they have the same cell there. -/
theorem read_eq_of_cellAt_eq
    (hInside : left.Inside site.1 site.2)
    (hCell :
      left.cellAt site.1 site.2 =
        right.cellAt site.1 site.2) :
    left.cells.read site.1 site.2 =
      right.cells.read site.1 site.2 := by
  rw [cellAt, cellAt, if_pos hInside] at hCell
  by_cases hRight : right.Inside site.1 site.2
  · rw [if_pos hRight] at hCell
    exact Except.ok.inj hCell
  · rw [if_neg hRight] at hCell
    cases hCell

/-
  Two grids that agree at a site and at its sources agree at
  this site one tick later.
-/
theorem cellAt_step_congr
    (hSide : left.side = right.side)
    (hOwn :
      left.cellAt site.1 site.2 =
        right.cellAt site.1 site.2)
    (hSources :
      ∀ near ∈ left.sources site,
        left.cellAt near.1 near.2 =
          right.cellAt near.1 near.2) :
    left.step.cellAt site.1 site.2 =
      right.step.cellAt site.1 site.2 := by
  by_cases hInside : left.Inside site.1 site.2
  · have hInside' : right.Inside site.1 site.2 := by
      rwa [Inside, ← hSide]
    have hRead := read_eq_of_cellAt_eq hInside hOwn
    have hPlane :
        left.plane site.1 site.2 =
          right.plane site.1 site.2 := by
      rw [plane, plane, Board.plane_natCast,
        Board.plane_natCast, hRead]
    rw [cellAt_eq_plane left.step hInside.1 hInside.2,
      cellAt_eq_plane right.step hInside'.1 hInside'.2,
      plane_step, plane_step]
    refine congrArg Except.ok (Plane.tick_congr hPlane ?_)
    intro hGas d
    rw [plane, Board.plane_natCast] at hGas
    cases hNext : neighbour? left.side site d with
    | none =>
        rw [ahead_of_edge left hNext,
          ahead_of_edge right (hSide ▸ hNext)]
    | some near =>
        have hSource : near ∈ left.sources site :=
          mem_sources_iff.mpr ⟨hGas, d, hNext⟩
        have hNear : left.Inside near.1 near.2 :=
          have hPlace := neighbour?_eq_some_iff.mp hNext
          ⟨hPlace.1, hPlace.2.1⟩
        rw [ahead_of_neighbour left hNext,
          ahead_of_neighbour right (hSide ▸ hNext),
          plane, plane, Board.plane_natCast,
          Board.plane_natCast,
          read_eq_of_cellAt_eq hNear
            (hSources near hSource)]
  · have hOutside : ¬ left.step.Inside site.1 site.2 :=
      hInside
    have hOutside' : ¬ right.step.Inside site.1 site.2 := by
      rwa [Inside, step, side_stepInOrder, ← hSide]
    rw [cellAt, cellAt, if_neg hOutside, if_neg hOutside']
    change Except.error (Fault.outsideLattice _ _ left.side) =
      Except.error (Fault.outsideLattice _ _ right.side)
    rw [hSide]

end Grid

end LatticeGas

------------------------------------------------------------
-- Cones of Influence
------------------------------------------------------------

namespace LatticeGas

namespace Grid

/-
  The sites that can matter to a site within some ticks: the
  site itself, and with each tick the sources of all of them.
-/
def cone
    (grid : Grid)
    (site : Nat × Nat) : Nat → Finset (Nat × Nat)
| 0 => {site}
| ticks + 1 =>
    grid.cone site ticks ∪
      (grid.cone site ticks).biUnion grid.sources

variable {grid left right : Grid}
variable {site other : Nat × Nat}

theorem mem_cone_succ_iff
    {ticks : Nat} :
    other ∈ grid.cone site (ticks + 1) ↔
      other ∈ grid.cone site ticks ∨
        ∃ near ∈ grid.cone site ticks,
          other ∈ grid.sources near := by
  rw [cone, Finset.mem_union, Finset.mem_biUnion]

/- Walls stay where they are, and so do the sources. -/
theorem sources_step
    (grid : Grid) :
    grid.step.sources = grid.sources := by
  funext site
  ext next
  have hWall :
      grid.step.cells.read site.1 site.2 = .wall ↔
        grid.cells.read site.1 site.2 = .wall := by
    rw [← Board.plane_natCast, ← Board.plane_natCast]
    change grid.step.plane site.1 site.2 = .wall ↔
      grid.plane site.1 site.2 = .wall
    rw [plane_step, Plane.tick_eq_wall_iff]
  rw [mem_sources_iff, mem_sources_iff, ne_eq, hWall]
  rfl

theorem cone_step
    (grid : Grid)
    (site : Nat × Nat)
    (ticks : Nat) :
    grid.step.cone site ticks = grid.cone site ticks := by
  induction ticks with
  | zero => rfl
  | succ ticks ih => rw [cone, cone, ih, sources_step]

/- Nothing travels faster than one site in a tick. -/
theorem distance_le_of_mem_cone
    {ticks : Nat}
    (hOther : other ∈ grid.cone site ticks) :
    ((other.1 : Int) - site.1).natAbs +
        ((other.2 : Int) - site.2).natAbs ≤ ticks := by
  induction ticks generalizing other with
  | zero =>
      rw [cone, Finset.mem_singleton] at hOther
      subst hOther
      omega
  | succ ticks ih =>
      rcases mem_cone_succ_iff.mp hOther with
        hOther | ⟨near, hNear, hSource⟩
      · exact Nat.le_succ_of_le (ih hOther)
      · have hStart := ih hNear
        rcases mem_sources_iff.mp hSource with ⟨-, d, hNext⟩
        rcases neighbour?_eq_some_iff.mp hNext with
          ⟨-, -, hPlaceX, hPlaceY⟩
        cases d <;> simp only [Direction.dx, Direction.dy]
          at hPlaceX hPlaceY <;> omega

/- Nothing leaves a part of the grid that walls close off. -/
theorem cone_subset_of_closed
    {part : Finset (Nat × Nat)}
    (hSite : site ∈ part)
    (hClosed : ∀ near ∈ part, grid.sources near ⊆ part)
    (ticks : Nat) :
    grid.cone site ticks ⊆ part := by
  induction ticks with
  | zero => simpa [cone] using hSite
  | succ ticks ih =>
      refine Finset.union_subset ih ?_
      refine Finset.biUnion_subset.mpr ?_
      intro near hNear
      exact hClosed near (ih hNear)

/-
  Two grids that agree on the cone of a site, as the walls of
  the first one shape it, have the same cell there at the end.
-/
theorem cellAt_stepMany_congr
    (hSide : left.side = right.side)
    {ticks : Nat}
    (hAgree :
      ∀ near ∈ left.cone site ticks,
        left.cellAt near.1 near.2 =
          right.cellAt near.1 near.2) :
    (left.stepMany ticks).cellAt site.1 site.2 =
      (right.stepMany ticks).cellAt site.1 site.2 := by
  induction ticks generalizing left right with
  | zero => exact hAgree site (Finset.mem_singleton_self site)
  | succ ticks ih =>
      refine ih hSide ?_
      intro near hNear
      rw [cone_step] at hNear
      refine cellAt_step_congr hSide
        (hAgree near (mem_cone_succ_iff.mpr (.inl hNear))) ?_
      intro source hSource
      exact hAgree source
        (mem_cone_succ_iff.mpr (.inr ⟨near, hNear, hSource⟩))

/-
  What a site holds after some ticks depends on no cell beyond
  its cone: two grids of one side, whatever their walls, that
  agree on the cone agree at the site when the ticks are over.
-/
theorem cellAt_stepMany_of_cone
    (hSide : left.side = right.side)
    (hSite : left.Inside site.1 site.2)
    (ticks : Nat)
    (hAgree :
      ∀ near ∈ left.cone site ticks,
        left.cellAt near.1 near.2 =
          right.cellAt near.1 near.2) :
    ∃ cell : Cell,
      (left.stepMany ticks).cellAt site.1 site.2 =
          .ok cell ∧
        (right.stepMany ticks).cellAt site.1 site.2 =
          .ok cell := by
  have hCell :=
    left.cellAt_stepMany ticks hSite.1 hSite.2
  exact ⟨_, hCell,
    (cellAt_stepMany_congr hSide hAgree).symm.trans hCell⟩

/-
  Two chambers with a wall between them: three particles in
  the first one, and the given cells in the second one.
-/
def chambers (cell : Cell) : Grid :=
  let cells : List (List Cell) :=
    [[.empty, .wall, cell],
      [.lone .xPos, .wall, cell],
      [.headOnY, .wall, cell]]
  have hSide : 0 < cells.length := by simp [cells]
  have hRows : ∀ row ∈ cells, row.length = cells.length := by
    simp [cells]
  Grid.ofBoard hSide (Board.ofRows cells hRows) none

/- What fills one chamber does not matter in the other one. -/
theorem cellAt_stepMany_of_cone_chambers :
    (chambers .empty).cellAt 2 1 ≠
        (chambers .headOnX).cellAt 2 1 ∧
      (∀ near ∈ (chambers .empty).cone (0, 1) 5,
        (chambers .empty).cellAt near.1 near.2 =
          (chambers .headOnX).cellAt near.1 near.2) ∧
      ∃ cell : Cell,
        ((chambers .empty).stepMany 5).cellAt 0 1 =
            .ok cell ∧
          ((chambers .headOnX).stepMany 5).cellAt 0 1 =
            .ok cell := by
  have hCone :
      (chambers .empty).cone (0, 1) 5 ⊆
        {(0, 0), (0, 1), (0, 2), (1, 0), (1, 1), (1, 2)} :=
    cone_subset_of_closed (by decide) (by decide) 5
  have hAgree :
      ∀ near ∈ (chambers .empty).cone (0, 1) 5,
        (chambers .empty).cellAt near.1 near.2 =
          (chambers .headOnX).cellAt near.1 near.2 := by
    intro near hNear
    have hMem := hCone hNear
    simp only [Finset.mem_insert, Finset.mem_singleton]
      at hMem
    rcases hMem with rfl | rfl | rfl | rfl | rfl | rfl <;> rfl
  have hSide :
      (chambers .empty).side = (chambers .headOnX).side :=
    rfl
  have hSite : (chambers .empty).Inside 0 1 := by decide
  have hEnd := @cellAt_stepMany_of_cone _ _ (0, 1)
    hSide hSite 5 hAgree
  exact ⟨by decide, hAgree, hEnd⟩

end Grid

end LatticeGas

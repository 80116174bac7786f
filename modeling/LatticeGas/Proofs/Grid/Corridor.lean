import Mathlib.Data.Nat.Find
import LatticeGas.Proofs.Grid.Ticks
import LatticeGas.Proofs.Plane.Lone

/-
  This file gives the law of a particle that has a grid to
  itself. It goes to and fro in its corridor, which is the
  part of its line between two walls, and turns around at
  each end, which takes one tick. So it is back after twice
  as many ticks as the corridor has sites.

  Key definitions include:
    * `Corridor`
    * `Corridor.phase`
    * `Corridor.placeAt`
    * `Corridor.headingAt`
    * `Grid.HasCorridor`
    * `Corridor.Guides`
    * `Grid.HasOnly`

  Key theorems include:
    * `Grid.HasCorridor.tick_particle`
    * `Grid.HasCorridor.run_particle`
    * `Grid.exists_corridor`
    * `Grid.hasOnly_stepMany`
-/

------------------------------------------------------------
-- Axes
------------------------------------------------------------

namespace LatticeGas

/- The two axes along which particles move. -/
inductive Axis where
  | x
  | y
  deriving DecidableEq

namespace Axis

/- The direction in which places increase. -/
def forward : Axis → Direction
| .x => .xPos
| .y => .yPos

/- The direction in which places decrease. -/
def backward (axis : Axis) : Direction :=
  axis.forward.opposite

/- A place on a row, or on a column. -/
def site
    {A : Type}
    (axis : Axis)
    (line place : A) : A × A :=
  match axis with
  | .x => (place, line)
  | .y => (line, place)

end Axis

namespace Direction

/- The axis along which a particle moves. -/
def axis : Direction → Axis
| .xNeg => .x
| .xPos => .x
| .yNeg => .y
| .yPos => .y

/- There are two ways to move along an axis. -/
theorem eq_forward_or_backward
    (d : Direction) :
    d = d.axis.forward ∨ d = d.axis.backward := by
  cases d <;> decide

end Direction

namespace Axis

variable (axis : Axis)

theorem backward_ne_forward :
    axis.backward ≠ axis.forward := by
  cases axis <;> decide

@[simp] theorem opposite_backward :
    axis.backward.opposite = axis.forward :=
  Direction.opposite_opposite _

/- A particle moves to the next place of its line. -/
theorem site_forward
    (line place : Int) :
    ((axis.site line place).1 + axis.forward.dx,
        (axis.site line place).2 + axis.forward.dy) =
      axis.site line (place + 1) := by
  cases axis <;>
    simp only [site, forward, Direction.dx, Direction.dy,
      Int.add_zero]

/- Or it moves to the one before. -/
theorem site_backward
    (line place : Int) :
    ((axis.site line place).1 + axis.backward.dx,
        (axis.site line place).2 + axis.backward.dy) =
      axis.site line (place - 1) := by
  cases axis <;>
    simp only [site, forward, backward, Direction.opposite,
      Direction.dx, Direction.dy, Int.add_zero,
      Int.sub_eq_add_neg]

end Axis

end LatticeGas

------------------------------------------------------------
-- Corridors
------------------------------------------------------------

namespace LatticeGas

/- Some places in a row on one line along an axis. -/
structure Corridor where
  axis : Axis
  line : Nat
  start : Nat
  length : Nat

namespace Corridor

/- The site of a place on the line of the corridor. -/
def site
    (corridor : Corridor)
    (place : Nat) : Nat × Nat :=
  corridor.axis.site corridor.line place

/- The place belongs to the corridor. -/
def Contains
    (corridor : Corridor)
    (place : Nat) : Prop :=
  corridor.start ≤ place ∧
    place < corridor.start + corridor.length

/-
  Where a particle is on its way to and fro. The phase counts
  the ticks since it was at the start and went forward.
-/
def phase
    (corridor : Corridor)
    (place : Nat)
    (d : Direction) : Nat :=
  if d = corridor.axis.forward then
    place - corridor.start
  else
    2 * corridor.length - 1 - (place - corridor.start)

/- The place of a particle in a phase. -/
def placeAt
    (corridor : Corridor)
    (phase : Nat) : Nat :=
  if phase < corridor.length then
    corridor.start + phase
  else
    corridor.start + (2 * corridor.length - 1 - phase)

/- The direction of a particle in a phase. -/
def headingAt
    (corridor : Corridor)
    (phase : Nat) : Direction :=
  if phase < corridor.length then
    corridor.axis.forward
  else
    corridor.axis.backward

variable {corridor : Corridor}
variable {place phase : Nat}
variable {d : Direction}

theorem phase_lt
    (hPlace : corridor.Contains place) :
    corridor.phase place d < 2 * corridor.length := by
  rcases hPlace with ⟨hStart, hEnd⟩
  unfold Corridor.phase
  split <;> omega

theorem contains_placeAt
    (hPhase : phase < 2 * corridor.length) :
    corridor.Contains (corridor.placeAt phase) := by
  unfold Contains placeAt
  split <;> omega

/- A phase tells the place and the direction. -/
theorem placeAt_phase
    (hPlace : corridor.Contains place)
    (hAxis : corridor.axis = d.axis) :
    corridor.placeAt (corridor.phase place d) = place ∧
      corridor.headingAt (corridor.phase place d) = d := by
  rcases hPlace with ⟨hStart, hEnd⟩
  unfold Corridor.phase placeAt headingAt
  rcases d.eq_forward_or_backward with hForward | hBackward
  · rw [← hAxis] at hForward
    rw [if_pos hForward, if_pos (by omega), if_pos (by omega)]
    exact ⟨by omega, hForward.symm⟩
  · rw [← hAxis] at hBackward
    have hNot : d ≠ corridor.axis.forward :=
      hBackward ▸ corridor.axis.backward_ne_forward
    rw [if_neg hNot, if_neg (by omega), if_neg (by omega)]
    exact ⟨by omega, hBackward.symm⟩

end Corridor

namespace Grid

/-
  The grid has the corridor: there is no wall in it, and it
  cannot be made longer at either end, where there is a wall
  or the edge of the grid.
-/
structure HasCorridor
    (grid : Grid)
    (corridor : Corridor) : Prop where
  passable :
    ∀ place, corridor.Contains place →
      ∃ flow,
        grid.cellAt (corridor.site place).1
          (corridor.site place).2 = .ok (.gas flow)
  closed_below :
    ∀ place, place + 1 = corridor.start →
      grid.cellAt (corridor.site place).1
        (corridor.site place).2 = .ok .wall
  closed_above :
    corridor.start + corridor.length < grid.side →
      grid.cellAt
        (corridor.site (corridor.start + corridor.length)).1
        (corridor.site (corridor.start + corridor.length)).2 =
          .ok .wall

end Grid

end LatticeGas

------------------------------------------------------------
-- Corridors in the Plane
------------------------------------------------------------

namespace LatticeGas

namespace Corridor

/- The site of a place in the plane, beyond the ends too. -/
def planeSite
    (corridor : Corridor)
    (place : Int) : Int × Int :=
  corridor.axis.site (corridor.line : Int) place

/- The cell of a plane at a place. -/
def cellOf
    (corridor : Corridor)
    (plane : Plane)
    (place : Int) : Cell :=
  plane (corridor.planeSite place).1
    (corridor.planeSite place).2

/- The plane whose only particle is at a place. -/
def loneAt
    (corridor : Corridor)
    (walls : Plane)
    (place : Int)
    (d : Direction) : Plane :=
  walls.lone (corridor.planeSite place).1
    (corridor.planeSite place).2 d

/- The plane whose only particle is in a phase. -/
def particle
    (corridor : Corridor)
    (walls : Plane)
    (phase : Nat) : Plane :=
  corridor.loneAt walls (corridor.placeAt phase)
    (corridor.headingAt phase)

variable (corridor : Corridor)

theorem planeSite_natCast
    (place : Nat) :
    corridor.planeSite place =
      (((corridor.site place).1 : Int),
        ((corridor.site place).2 : Int)) := by
  unfold planeSite site
  cases corridor.axis <;> rfl

/- The next place is ahead of a particle that goes forward. -/
theorem planeSite_add_one
    (place : Int) :
    corridor.planeSite (place + 1) =
      ((corridor.planeSite place).1 +
          corridor.axis.forward.dx,
        (corridor.planeSite place).2 +
          corridor.axis.forward.dy) :=
  (corridor.axis.site_forward corridor.line place).symm

/- The place before is ahead of one that goes backward. -/
theorem planeSite_sub_one
    (place : Int) :
    corridor.planeSite (place - 1) =
      ((corridor.planeSite place).1 +
          corridor.axis.backward.dx,
        (corridor.planeSite place).2 +
          corridor.axis.backward.dy) :=
  (corridor.axis.site_backward corridor.line place).symm

theorem ahead_forward
    (plane : Plane)
    (place : Int) :
    plane.ahead (corridor.planeSite place).1
        (corridor.planeSite place).2
        corridor.axis.forward =
      corridor.cellOf plane (place + 1) := by
  rw [cellOf, planeSite_add_one]
  rfl

theorem ahead_backward
    (plane : Plane)
    (place : Int) :
    plane.ahead (corridor.planeSite place).1
        (corridor.planeSite place).2
        corridor.axis.backward =
      corridor.cellOf plane (place - 1) := by
  rw [cellOf, planeSite_sub_one]
  rfl

variable {corridor : Corridor}
variable {walls : Plane}

/- In the first half of its phases it goes forward. -/
theorem particle_forward
    {phase : Nat}
    (hPhase : phase < corridor.length) :
    corridor.particle walls phase =
      corridor.loneAt walls
        ((corridor.start + phase : Nat) : Int)
        corridor.axis.forward := by
  rw [particle, placeAt, headingAt, if_pos hPhase,
    if_pos hPhase]

/- In the second half it goes backward from the end. -/
theorem particle_backward
    {phase : Nat}
    (hPhase : corridor.length ≤ phase) :
    corridor.particle walls phase =
      corridor.loneAt walls
        ((corridor.start +
          (2 * corridor.length - 1 - phase) : Nat) : Int)
        corridor.axis.backward := by
  rw [particle, placeAt, headingAt,
    if_neg (Nat.not_lt.mpr hPhase),
    if_neg (Nat.not_lt.mpr hPhase)]

/- Its site is that of its place. -/
theorem particle_eq_lone
    (phase : Nat) :
    corridor.particle walls phase =
      walls.lone
        (corridor.site (corridor.placeAt phase)).1
        (corridor.site (corridor.placeAt phase)).2
        (corridor.headingAt phase) := by
  rw [particle, loneAt, planeSite_natCast]

variable {here next : Int}

/- Towards the end, a free place is taken by the particle. -/
theorem tick_forward
    (hStep : next = here + 1)
    (hHere : corridor.cellOf walls here ≠ .wall)
    (hNext : corridor.cellOf walls next ≠ .wall) :
    (corridor.loneAt walls here
        corridor.axis.forward).tick =
      corridor.loneAt walls next corridor.axis.forward := by
  subst hStep
  rw [← ahead_forward] at hNext
  rw [loneAt, loneAt, planeSite_add_one]
  exact Plane.tick_lone_of_free hHere hNext

/- And so is one towards the start. -/
theorem tick_backward
    (hStep : next = here - 1)
    (hHere : corridor.cellOf walls here ≠ .wall)
    (hNext : corridor.cellOf walls next ≠ .wall) :
    (corridor.loneAt walls here
        corridor.axis.backward).tick =
      corridor.loneAt walls next corridor.axis.backward := by
  subst hStep
  rw [← ahead_backward] at hNext
  rw [loneAt, loneAt, planeSite_sub_one]
  exact Plane.tick_lone_of_free hHere hNext

/- A wall behind the end turns the particle around. -/
theorem tick_at_end
    (hStep : next = here + 1)
    (hNext : corridor.cellOf walls next = .wall) :
    (corridor.loneAt walls here
        corridor.axis.forward).tick =
      corridor.loneAt walls here
        corridor.axis.backward := by
  subst hStep
  rw [← ahead_forward] at hNext
  exact Plane.tick_lone_of_wall hNext

/- And so does one before the start. -/
theorem tick_at_start
    (hStep : next = here - 1)
    (hNext : corridor.cellOf walls next = .wall) :
    (corridor.loneAt walls here
        corridor.axis.backward).tick =
      corridor.loneAt walls here
        corridor.axis.forward := by
  subst hStep
  rw [← ahead_backward] at hNext
  have hTick := Plane.tick_lone_of_wall hNext
  rwa [Axis.opposite_backward] at hTick

end Corridor

namespace Grid

variable {grid : Grid}
variable {corridor : Corridor}

/- No wall stands in the way. -/
theorem HasCorridor.cellOf_ne_wall
    (hCorridor : grid.HasCorridor corridor)
    {place : Nat}
    (hPlace : corridor.Contains place) :
    corridor.cellOf grid.plane place ≠ .wall := by
  rcases hCorridor.passable place hPlace with ⟨flow, hCell⟩
  rw [Corridor.cellOf, corridor.planeSite_natCast,
    (plane_of_cellAt hCell).2]
  exact Cell.noConfusion

/- Before the start there is a wall or the edge. -/
theorem HasCorridor.cellOf_below
    (hCorridor : grid.HasCorridor corridor) :
    corridor.cellOf grid.plane (corridor.start - 1) =
      .wall := by
  by_cases hStart : corridor.start = 0
  · apply grid.walledOutside_plane
    rw [hStart]
    unfold Corridor.planeSite Axis.site
    cases corridor.axis <;> simp
  · have hBelow :
        ((corridor.start : Int) - 1) =
          ((corridor.start - 1 : Nat) : Int) := by
      omega
    have hCell := hCorridor.closed_below (corridor.start - 1)
      (by omega)
    rw [Corridor.cellOf, hBelow, corridor.planeSite_natCast]
    exact (plane_of_cellAt hCell).2

/- And so it is behind the last place. -/
theorem HasCorridor.cellOf_above
    (hCorridor : grid.HasCorridor corridor) :
    corridor.cellOf grid.plane
      ((corridor.start + corridor.length : Nat) : Int) =
        .wall := by
  by_cases hEnd :
      corridor.start + corridor.length < grid.side
  · rw [Corridor.cellOf, corridor.planeSite_natCast]
    exact (plane_of_cellAt (hCorridor.closed_above hEnd)).2
  · apply grid.walledOutside_plane
    unfold Corridor.planeSite Axis.site
    cases corridor.axis <;> simp <;> omega

/-
  A tick takes the particle from one phase to the next. It
  moves on within the corridor, and at both ends the tick is
  spent on turning around.
-/
theorem HasCorridor.tick_particle
    (hCorridor : grid.HasCorridor corridor)
    {phase : Nat}
    (hPhase : phase < 2 * corridor.length) :
    (corridor.particle grid.plane phase).tick =
      corridor.particle grid.plane
        ((phase + 1) % (2 * corridor.length)) := by
  have hFree :
      ∀ place : Nat, corridor.Contains place →
        corridor.cellOf grid.plane place ≠ .wall :=
    fun _ => hCorridor.cellOf_ne_wall
  by_cases hForward : phase < corridor.length
  · rw [Corridor.particle_forward hForward,
      Nat.mod_eq_of_lt (by omega)]
    by_cases hNext : phase + 1 < corridor.length
    · rw [Corridor.particle_forward hNext]
      exact Corridor.tick_forward (by omega)
        (hFree _ ⟨by omega, by omega⟩)
        (hFree _ ⟨by omega, by omega⟩)
    · have hSame :
          corridor.start +
              (2 * corridor.length - 1 - (phase + 1)) =
            corridor.start + phase := by
        omega
      rw [Corridor.particle_backward (by omega), hSame]
      exact Corridor.tick_at_end (by omega)
        hCorridor.cellOf_above
  · rw [Corridor.particle_backward (by omega)]
    by_cases hNext : phase + 1 < 2 * corridor.length
    · rw [Nat.mod_eq_of_lt hNext,
        Corridor.particle_backward (by omega)]
      exact Corridor.tick_backward (by omega)
        (hFree _ ⟨by omega, by omega⟩)
        (hFree _ ⟨by omega, by omega⟩)
    · have hLast : phase + 1 = 2 * corridor.length := by
        omega
      have hSame :
          corridor.start +
              (2 * corridor.length - 1 - phase) =
            corridor.start + 0 := by
        omega
      rw [hLast, Nat.mod_self,
        Corridor.particle_forward (by omega), hSame]
      exact Corridor.tick_at_start (by omega)
        hCorridor.cellOf_below

/- So some ticks take it as many phases further. -/
theorem HasCorridor.run_particle
    (hCorridor : grid.HasCorridor corridor)
    {phase : Nat}
    (hPhase : phase < 2 * corridor.length)
    (ticks : Nat) :
    Plane.run ticks (corridor.particle grid.plane phase) =
      corridor.particle grid.plane
        ((phase + ticks) % (2 * corridor.length)) := by
  induction ticks with
  | zero =>
      rw [Nat.add_zero, Nat.mod_eq_of_lt hPhase]
      rfl
  | succ ticks ih =>
      rw [Plane.run_succ, ih, hCorridor.tick_particle
        (Nat.mod_lt _ (by omega)), Nat.mod_add_mod]
      rfl

end Grid

end LatticeGas

------------------------------------------------------------
-- Corridors Through a Site
------------------------------------------------------------

namespace LatticeGas

namespace Corridor

variable {free : Nat → Prop}
variable {place : Nat}

/- Free places reach back to a first one. -/
theorem exists_start
    (hPlace : free place) :
    ∃ start, start ≤ place ∧
      (∀ other, start ≤ other → other ≤ place →
        free other) ∧
      ∀ other, other + 1 = start → ¬ free other := by
  induction place with
  | zero =>
      refine ⟨0, Nat.le_refl 0, ?_, by omega⟩
      intro other _ hOther
      rwa [Nat.le_zero.mp hOther]
  | succ place ih =>
      by_cases hPred : free place
      · rcases ih hPred with ⟨start, hStart, hFree, hClosed⟩
        refine ⟨start, by omega, ?_, hClosed⟩
        intro other hFrom hTo
        rcases Nat.lt_or_eq_of_le hTo with hBefore | rfl
        · exact hFree other hFrom (by omega)
        · exact hPlace
      · refine ⟨place + 1, Nat.le_refl _, ?_, ?_⟩
        · intro other hFrom hTo
          rwa [Nat.le_antisymm hTo hFrom]
        · intro other hOther
          rwa [Nat.succ.inj hOther]

open Classical in
/- They go on to a last one, if not all of them are free. -/
theorem exists_stop
    (hPlace : free place)
    (hBlocked : ∃ other, place < other ∧ ¬ free other) :
    ∃ stop, place < stop ∧
      (∀ other, place ≤ other → other < stop →
        free other) ∧
      ¬ free stop := by
  refine ⟨Nat.find hBlocked, (Nat.find_spec hBlocked).1, ?_,
    (Nat.find_spec hBlocked).2⟩
  intro other hFrom hTo
  rcases Nat.lt_or_eq_of_le hFrom with hAfter | rfl
  · exact not_not.mp fun hOther =>
      Nat.find_min hBlocked hTo ⟨hAfter, hOther⟩
  · exact hPlace

/-
  A particle at the site that moves along `d` is in the
  corridor of the grid, at the given place.
-/
structure Guides
    (corridor : Corridor)
    (grid : Grid)
    (place : Nat)
    (site : Nat × Nat)
    (d : Direction) : Prop where
  axis_eq : corridor.axis = d.axis
  site_eq : corridor.site place = site
  contains : corridor.Contains place
  hasCorridor : grid.HasCorridor corridor

end Corridor

namespace Axis

theorem exists_site
    (axis : Axis)
    (site : Nat × Nat) :
    ∃ line place, axis.site line place = site := by
  rcases site with ⟨x, y⟩
  cases axis with
  | x => exact ⟨y, x, rfl⟩
  | y => exact ⟨x, y, rfl⟩

end Axis

namespace Grid

variable {grid : Grid}

/- Inside of the grid there is a wall or there is gas. -/
theorem cellAt_eq_wall_of_ne_gas
    {x y : Nat}
    (hInside : grid.Inside x y)
    (hGas :
      ¬ ∃ flow, grid.cellAt x y = .ok (.gas flow)) :
    grid.cellAt x y = .ok .wall := by
  have hCell :=
    cellAt_eq_plane grid hInside.1 hInside.2
  cases hPlane : grid.plane x y with
  | wall => rwa [hPlane] at hCell
  | gas flow => exact absurd ⟨flow, hPlane ▸ hCell⟩ hGas

theorem inside_site_iff
    {axis : Axis}
    {line place : Nat} :
    grid.Inside (axis.site line place).1
        (axis.site line place).2 ↔
      line < grid.side ∧ place < grid.side := by
  cases axis with
  | x => exact and_comm
  | y => exact Iff.rfl

/- Each particle is in a corridor. -/
theorem exists_corridor
    {site : Nat × Nat}
    {flow : Flow}
    (hSite : grid.cellAt site.1 site.2 = .ok (.gas flow))
    (d : Direction) :
    ∃ corridor place,
      Corridor.Guides corridor grid place site d := by
  rcases d.axis.exists_site site with ⟨line, here, rfl⟩
  let free (place : Nat) : Prop :=
    ∃ flow,
      grid.cellAt (d.axis.site line place).1
        (d.axis.site line place).2 = .ok (.gas flow)
  have hHere : free here := ⟨flow, hSite⟩
  have hInside : ∀ place, free place → place < grid.side :=
    fun place ⟨_, hCell⟩ =>
      (inside_site_iff.mp (plane_of_cellAt hCell).1).2
  have hLine : line < grid.side :=
    (inside_site_iff.mp (plane_of_cellAt hSite).1).1
  have hWall :
      ∀ place, place < grid.side → ¬ free place →
        grid.cellAt (d.axis.site line place).1
          (d.axis.site line place).2 = .ok .wall :=
    fun place hPlace =>
      cellAt_eq_wall_of_ne_gas
        (inside_site_iff.mpr ⟨hLine, hPlace⟩)
  have hEdge : ∃ other, here < other ∧ ¬ free other :=
    ⟨grid.side, hInside here hHere,
      fun hOther => Nat.lt_irrefl _ (hInside _ hOther)⟩
  rcases Corridor.exists_start hHere with
    ⟨start, hStart, hBefore, hBelow⟩
  rcases Corridor.exists_stop hHere hEdge with
    ⟨stop, hStop, hAfter, hAbove⟩
  have hEnd : start + (stop - start) = stop := by omega
  have hContains : here < start + (stop - start) := by omega
  refine ⟨⟨d.axis, line, start, stop - start⟩, here, rfl, rfl,
    ⟨hStart, hContains⟩, ?_, ?_, ?_⟩
  · rintro place ⟨hFrom, hTo⟩
    rw [hEnd] at hTo
    rcases Nat.le_total place here with hLe | hLe
    · exact hBefore place hFrom hLe
    · exact hAfter place hLe hTo
  · intro place hPlace
    have hBeyond := hInside here hHere
    have hNext : place + 1 = start := hPlace
    exact hWall place (by omega) (hBelow place hPlace)
  · simp only [hEnd]
    exact fun hNext => hWall stop hNext hAbove

end Grid

end LatticeGas

------------------------------------------------------------
-- Particles by Themselves
------------------------------------------------------------

namespace LatticeGas

namespace Grid

/-
  The only particle of the grid is at the given site and
  moves along `d`. All other cells are walls or empty.
-/
structure HasOnly
    (grid : Grid)
    (site : Nat × Nat)
    (d : Direction) : Prop where
  present : grid.cellAt site.1 site.2 = .ok (.lone d)
  absent :
    ∀ x y, grid.Inside x y → (x, y) ≠ site →
      grid.cellAt x y = .ok .wall ∨
        grid.cellAt x y = .ok .empty

variable {grid : Grid}
variable {site : Nat × Nat}
variable {d : Direction}

theorem natCast_eq_site_iff
    {x y : Nat} :
    ((x : Int) = site.1 ∧ (y : Int) = site.2) ↔
      (x, y) = site := by
  rw [Prod.ext_iff]
  omega

/- Then its plane has no other particle either. -/
theorem HasOnly.plane_eq
    (hOnly : grid.HasOnly site d) :
    grid.plane = grid.plane.lone site.1 site.2 d := by
  funext u v
  unfold Plane.lone
  by_cases hWall : grid.plane u v = .wall
  · rw [if_pos hWall, hWall]
  · rw [if_neg hWall]
    rcases exists_inside hWall with ⟨x, y, rfl, rfl, hInside⟩
    by_cases hSite : (x, y) = site
    · rw [if_pos (natCast_eq_site_iff.mpr hSite)]
      subst hSite
      exact (plane_of_cellAt hOnly.present).2
    · rw [if_neg (natCast_eq_site_iff.not.mpr hSite)]
      rcases hOnly.absent x y hInside hSite with hCell | hCell
      · exact absurd (plane_of_cellAt hCell).2 hWall
      · exact (plane_of_cellAt hCell).2

/- And that is all it takes. -/
theorem HasOnly.of_plane_eq
    {walls : Plane}
    (hGas : walls site.1 site.2 ≠ .wall)
    (hPlane : grid.plane = walls.lone site.1 site.2 d) :
    grid.HasOnly site d := by
  have hPresent : grid.plane site.1 site.2 = .lone d := by
    rw [hPlane, Plane.lone, if_neg hGas, if_pos ⟨rfl, rfl⟩]
  constructor
  · have hInside : grid.Inside site.1 site.2 := by
      rcases exists_inside
          (hPresent.trans_ne Cell.noConfusion) with
        ⟨x, y, hx, hy, hInside⟩
      rwa [Int.ofNat.inj hx, Int.ofNat.inj hy]
    rw [cellAt_eq_plane grid hInside.1 hInside.2, hPresent]
  · intro x y hInside hSite
    rw [cellAt_eq_plane grid hInside.1 hInside.2, hPlane,
      Plane.lone, if_neg (natCast_eq_site_iff.not.mpr hSite)]
    split
    · exact .inl rfl
    · exact .inr rfl

/-
  A particle by itself goes to and fro in its corridor. So
  its phase tells at any time where it is and where it goes,
  and no other particle appears. The walls stay.
-/
theorem hasOnly_stepMany
    (hOnly : grid.HasOnly site d) :
    (∃ (corridor : Corridor) (place : Nat),
        corridor.Guides grid place site d) ∧
      ∀ (corridor : Corridor) (place ticks : Nat),
        corridor.Guides grid place site d →
          let phase :=
            (corridor.phase place d + ticks) %
              (2 * corridor.length)
          (grid.stepMany ticks).HasOnly
              (corridor.site (corridor.placeAt phase))
              (corridor.headingAt phase) ∧
            ∀ x y : Nat,
              (grid.stepMany ticks).cellAt x y = .ok .wall ↔
                grid.cellAt x y = .ok .wall := by
  constructor
  · exact exists_corridor hOnly.present d
  · intro corridor place ticks hGuides phase
    have hStart :
        corridor.phase place d < 2 * corridor.length :=
      Corridor.phase_lt hGuides.contains
    have hPhase : phase < 2 * corridor.length :=
      Nat.mod_lt _ (by omega)
    rcases Corridor.placeAt_phase hGuides.contains
      hGuides.axis_eq with ⟨hPlaceAt, hHeadingAt⟩
    have hPlane :
        grid.plane =
          corridor.particle grid.plane
            (corridor.phase place d) := by
      rw [Corridor.particle_eq_lone, hPlaceAt, hHeadingAt,
        hGuides.site_eq]
      exact hOnly.plane_eq
    have hLater :
        (grid.stepMany ticks).plane =
          corridor.particle grid.plane phase := by
      rw [plane_stepMany, ←
        hGuides.hasCorridor.run_particle hStart, ← hPlane]
    rw [Corridor.particle_eq_lone] at hLater
    have hFree :=
      hGuides.hasCorridor.cellOf_ne_wall
        (Corridor.contains_placeAt hPhase)
    rw [Corridor.cellOf, Corridor.planeSite_natCast] at hFree
    exact ⟨HasOnly.of_plane_eq hFree hLater,
      cellAt_stepMany_eq_wall_iff grid ticks⟩

/- A corridor from a wall to the edge, with a particle in it. -/
def gallery : Grid :=
  let rows : List (List Cell) :=
    [[.empty, .wall, .empty, .empty],
      [.empty, .empty, .wall, .empty],
      [.wall, .empty, .lone .xNeg, .empty],
      [.empty, .empty, .empty, .wall]]
  have hSide : 0 < rows.length := by simp [rows]
  have hRows : ∀ row ∈ rows, row.length = rows.length := by
    simp [rows]
  Grid.ofBoard hSide (Board.ofRows rows hRows) none

/- After three turns it comes by the other way around. -/
theorem hasOnly_stepMany_gallery :
    gallery.HasOnly (2, 2) .xNeg ∧
      (gallery.stepMany 9).HasOnly (2, 2) .xPos ∧
      (gallery.stepMany 9).cellAt 0 2 = .ok .wall := by
  have hAbsent :
      ∀ x < 4, ∀ y < 4, (x, y) ≠ (2, 2) →
        gallery.cellAt x y = .ok .wall ∨
          gallery.cellAt x y = .ok .empty := by
    decide
  have hOnly : gallery.HasOnly (2, 2) .xNeg :=
    { present := rfl
      absent := fun x y hInside =>
        hAbsent x hInside.1 y hInside.2 }
  have hPassable :
      ∀ place < 4, 1 ≤ place →
        ∃ flow,
          gallery.cellAt place 2 = .ok (.gas flow) := by
    intro place hEnd hStart
    rcases (by omega : place = 1 ∨ place = 2 ∨ place = 3)
      with rfl | rfl | rfl <;> exact ⟨_, rfl⟩
  have hGuides :
      Corridor.Guides ⟨.x, 2, 1, 3⟩ gallery 2 (2, 2) .xNeg :=
    { axis_eq := rfl
      site_eq := rfl
      contains := ⟨by decide, by decide⟩
      hasCorridor :=
        { passable := fun place hPlace =>
            hPassable place hPlace.2 hPlace.1
          closed_below := fun place hPlace => by
            rw [Nat.succ.inj hPlace]
            rfl
          closed_above := by decide } }
  rcases (hasOnly_stepMany hOnly).2 _ 2 9 hGuides with
    ⟨hLater, hWalls⟩
  exact ⟨hOnly, hLater, (hWalls 0 2).mpr rfl⟩

end Grid

end LatticeGas

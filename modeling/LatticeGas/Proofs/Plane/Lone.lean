import LatticeGas.Proofs.Plane.Reversal

/-
  This file shows how a particle moves that has the plane to
  itself. If its way is free it goes on to the site ahead,
  and in front of a wall it turns around where it is.

  Key definitions include:
    * `Plane.lone`

  Key theorems include:
    * `Plane.tick_lone_of_wall`
    * `Plane.tick_lone_of_free`
-/

------------------------------------------------------------
-- Planes with One Particle
------------------------------------------------------------

namespace LatticeGas

namespace Cell

@[simp] theorem has_lone
    (d e : Direction) :
    (Cell.lone d).has e = decide (e = d) := by
  simp only [lone, has, Flow.has_ofFn]

@[simp] theorem has_empty
    (e : Direction) :
    Cell.empty.has e = false := by
  cases e <;> rfl

end Cell

namespace Plane

/-
  The walls of a plane, and in between nothing but a single
  particle at the given site, which moves along `d`.
-/
def lone
    (walls : Plane)
    (x y : Int)
    (d : Direction) : Plane :=
  fun u v =>
    if walls u v = .wall then .wall
    else if u = x ∧ v = y then .lone d
    else .empty

variable {walls plane : Plane}
variable {x y u v : Int}
variable {d : Direction}

theorem lone_eq_wall_iff :
    walls.lone x y d u v = .wall ↔ walls u v = .wall := by
  unfold lone
  split
  · next hWall => exact iff_of_true rfl hWall
  · next hGas =>
      split
      · exact iff_of_false Cell.noConfusion hGas
      · exact iff_of_false Cell.noConfusion hGas

/- The particle is found where it is, and nowhere else. -/
theorem has_lone
    (hGas : walls u v ≠ .wall)
    (e : Direction) :
    (walls.lone x y d u v).has e =
      decide (u = x ∧ v = y ∧ e = d) := by
  unfold lone
  rw [if_neg hGas]
  by_cases hSite : u = x ∧ v = y
  · simp [hSite]
  · have hOther : ¬ (u = x ∧ v = y ∧ e = d) :=
      fun hAll => hSite ⟨hAll.1, hAll.2.1⟩
    simp [hSite, hOther]

/- One particle does not collide. -/
theorem tick_eq_lone
    (hWalls :
      ∀ u v : Int, plane u v = .wall ↔ walls u v = .wall)
    (hInflow :
      ∀ u v : Int, walls u v ≠ .wall →
        ∀ e, (plane.inflow u v).has e =
          decide (u = x ∧ v = y ∧ e = d)) :
    plane.tick = walls.lone x y d := by
  funext u v
  by_cases hWall : walls u v = .wall
  · rw [(tick_eq_wall_iff plane u v).mpr
      ((hWalls u v).mpr hWall),
      lone_eq_wall_iff.mpr hWall]
  · have hGas : plane u v ≠ .wall :=
      fun hPlane => hWall ((hWalls u v).mp hPlane)
    rw [tick_eq_inflow plane hGas, lone, if_neg hWall]
    by_cases hSite : u = x ∧ v = y
    · have hFlow :
          plane.inflow u v =
            Flow.ofFn fun other => other = d := by
        apply Flow.eq_of_has_eq
        intro e
        rw [hInflow u v hWall, Flow.has_ofFn]
        simp only [hSite, true_and]
      rw [if_pos hSite, hFlow]
      cases d <;> rfl
    · have hFlow : plane.inflow u v = Flow.empty := by
        apply Flow.eq_of_has_eq
        intro e
        rw [hInflow u v hWall, decide_eq_false
          fun hAll => hSite ⟨hAll.1, hAll.2.1⟩]
        cases e <;> rfl
      rw [if_neg hSite, hFlow]
      rfl

end Plane

end LatticeGas

------------------------------------------------------------
-- One Tick
------------------------------------------------------------

namespace LatticeGas

namespace Plane

variable {walls : Plane}
variable {x y u v : Int}
variable {d e : Direction}

/- What moves along `e` comes from the site behind. -/
theorem ahead_opposite_eq
    (plane : Plane)
    (x y : Int)
    (e : Direction) :
    plane.ahead x y e.opposite =
      plane (x - e.dx) (y - e.dy) := by
  rw [ahead, Direction.dx_opposite, Direction.dy_opposite,
    ← Int.sub_eq_add_neg, ← Int.sub_eq_add_neg]

/-
  What arrives at a site is the particle itself: its own, if
  there is a wall behind, or else that of the site behind.
-/
theorem has_inflow_lone
    (hGas : walls u v ≠ .wall) :
    ((walls.lone x y d).inflow u v).has e =
      if walls (u - e.dx) (v - e.dy) = .wall then
        decide (u = x ∧ v = y ∧ e.opposite = d)
      else
        decide (u - e.dx = x ∧ v - e.dy = y ∧ e = d) := by
  rw [inflow, Flow.has_ofFn, ahead_opposite_eq]
  by_cases hBehind : walls (u - e.dx) (v - e.dy) = .wall
  · rw [lone_eq_wall_iff.mpr hBehind, Cell.arrives_wall,
      has_lone hGas, if_pos hBehind]
  · have hFree :
        walls.lone x y d (u - e.dx) (v - e.dy) ≠ .wall := by
      rwa [ne_eq, lone_eq_wall_iff]
    rw [Cell.arrives_of_ne_wall hFree, has_lone hBehind,
      if_neg hBehind]

/- In front of a wall the particle turns around. -/
theorem tick_lone_of_wall
    (hWall : walls.ahead x y d = .wall) :
    (walls.lone x y d).tick = walls.lone x y d.opposite := by
  refine tick_eq_lone (fun _ _ => lone_eq_wall_iff) ?_
  intro u v hGas e
  rw [has_inflow_lone hGas]
  by_cases hBehind : walls (u - e.dx) (v - e.dy) = .wall
  · have hSame : e.opposite = d ↔ e = d.opposite :=
      ⟨fun h => by rw [← h, Direction.opposite_opposite],
        fun h => by rw [h, Direction.opposite_opposite]⟩
    rw [if_pos hBehind, decide_eq_decide, hSame]
  · -- No particle comes from behind, since it would have to
    -- be the one that stands in front of the wall.
    rw [if_neg hBehind, decide_eq_decide]
    constructor
    · rintro ⟨rfl, rfl, rfl⟩
      rw [ahead, Int.sub_add_cancel, Int.sub_add_cancel]
        at hWall
      exact absurd hWall hGas
    · rintro ⟨rfl, rfl, rfl⟩
      rw [Direction.dx_opposite, Direction.dy_opposite,
        Int.sub_neg, Int.sub_neg] at hBehind
      exact absurd hWall hBehind

/- If the way is free the particle goes on. -/
theorem tick_lone_of_free
    (hGas : walls x y ≠ .wall)
    (hFree : walls.ahead x y d ≠ .wall) :
    (walls.lone x y d).tick =
      walls.lone (x + d.dx) (y + d.dy) d := by
  refine tick_eq_lone (fun _ _ => lone_eq_wall_iff) ?_
  intro u v hSite e
  rw [has_inflow_lone hSite]
  by_cases hBehind : walls (u - e.dx) (v - e.dy) = .wall
  · -- Nothing is thrown back, since only the particle could
    -- be, and it has no wall in front of it.
    rw [if_pos hBehind, decide_eq_decide]
    constructor
    · rintro ⟨rfl, rfl, rfl⟩
      rw [ahead_opposite_eq] at hFree
      exact absurd hBehind hFree
    · rintro ⟨rfl, rfl, rfl⟩
      rw [Int.add_sub_cancel, Int.add_sub_cancel] at hBehind
      exact absurd hBehind hGas
  · rw [if_neg hBehind, decide_eq_decide]
    constructor
    · rintro ⟨rfl, rfl, rfl⟩
      simp only [Int.sub_add_cancel, and_self]
    · rintro ⟨rfl, rfl, rfl⟩
      simp only [Int.add_sub_cancel, and_self]

end Plane

end LatticeGas

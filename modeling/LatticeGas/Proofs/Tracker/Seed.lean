import LatticeGas.Proofs.Arena.Building
import LatticeGas.Proofs.Square.View
import LatticeGas.Tracker.Build

/-
  This file shows that the square of a new tracker shows the
  cells of its lattice with walls around them, and how large
  the square is.

  Key definitions include:
    * `Lattice.Readable`
    * `Lattice.plane`

  Key theorems include:
    * `Tracker.seedLevel_le_iff`
    * `Building.makes_seed`
    * `Building.readable_of_seed`
    * `Tracker.build_congr`
-/

------------------------------------------------------------
-- Lattices in the Plane
------------------------------------------------------------

namespace LatticeGas

namespace Lattice

variable {L : Type}
variable [Lattice L]

/- Reading a cell below the side of a lattice is no fault. -/
def Readable (lattice : L) : Prop :=
  ∀ x y : Nat,
    x < side lattice → y < side lattice →
      ∃ cell, cellAt lattice x y = .ok cell

/- The cell at `(x, y)`, or a wall if reading is a fault. -/
def cellOrWall
    (lattice : L)
    (x y : Nat) : Cell :=
  match cellAt lattice x y with
  | .ok cell => cell
  | .error _ => .wall

/- The lattice in the plane, with walls all around it. -/
def plane (lattice : L) : Plane :=
  Plane.ofCells (side lattice) (cellOrWall lattice)

theorem walledOutside_plane
    (lattice : L) :
    (plane lattice).WalledOutside (side lattice) :=
  Plane.walledOutside_ofCells _ _

/- The cells that are read are those of the plane. -/
theorem Readable.cellAt_eq
    {lattice : L}
    (hReadable : Readable lattice)
    {x y : Nat}
    (hx : x < side lattice)
    (hy : y < side lattice) :
    cellAt lattice x y = .ok (plane lattice x y) := by
  rcases hReadable x y hx hy with ⟨cell, hCell⟩
  unfold plane
  rw [Plane.ofCells_inside _ hx hy]
  simp only [cellOrWall, hCell]

/- Reading a uniform lattice is never a fault. -/
theorem readable_uniform
    (lattice : Uniform) :
    Readable lattice :=
  fun _ _ _ _ => ⟨lattice.cell, rfl⟩

end Lattice

end LatticeGas

------------------------------------------------------------
-- Levels of Lattices
------------------------------------------------------------

namespace LatticeGas

namespace Tracker

/- The seed level is the lowest one with enough cells. -/
theorem seedLevel_le_iff
    (side level : Nat) :
    seedLevel side ≤ level ↔ side ≤ sideOfLevel level := by
  have hPos := sideOfLevel_pos level
  unfold seedLevel
  by_cases hSide : side ≤ 1
  · rw [if_pos hSide]
    constructor
    · intro _
      omega
    · intro _
      omega
  · rw [if_neg hSide, Nat.succ_le_iff,
      Nat.log2_lt (by omega)]
    change side - 1 < sideOfLevel level ↔ _
    constructor
    · intro hBelow
      omega
    · intro hEnough
      omega

theorem le_sideOfLevel_seedLevel
    (side : Nat) :
    side ≤ sideOfLevel (seedLevel side) :=
  (seedLevel_le_iff side _).mp (Nat.le_refl _)

/- A square of the seed level is less than twice as large. -/
theorem sideOfLevel_seedLevel_lt
    {side : Nat}
    (hSide : 0 < side) :
    sideOfLevel (seedLevel side) < 2 * side := by
  cases hLevel : seedLevel side with
  | zero =>
      rw [sideOfLevel_zero]
      omega
  | succ level =>
      have hTooSmall : ¬ side ≤ sideOfLevel level := by
        rw [← seedLevel_le_iff]
        omega
      rw [sideOfLevel_succ]
      omega

end Tracker

end LatticeGas

------------------------------------------------------------
-- Seeding
------------------------------------------------------------

namespace LatticeGas

namespace Building

open Arena

variable {L : Type}
variable [Lattice L]
variable {lattice : L}

/- Beyond the lattice a seed is a wall. -/
theorem seed_of_beyond
    {level x y : Nat}
    (hBeyond :
      Lattice.side lattice ≤ x ∨
        Lattice.side lattice ≤ y) :
    seed lattice level x y = wall level := by
  unfold seed
  rw [if_pos hBeyond]

theorem seed_zero
    {x y : Nat}
    (hWithin :
      ¬ (Lattice.side lattice ≤ x ∨
        Lattice.side lattice ≤ y)) :
    seed lattice 0 x y =
      (do
        let cell ← Lattice.cellAt lattice x y
        leaf cell) := by
  unfold seed
  rw [if_neg hWithin]

/- Within the lattice a seed is made of four smaller ones. -/
theorem seed_succ
    {level x y : Nat}
    (hWithin :
      ¬ (Lattice.side lattice ≤ x ∨
        Lattice.side lattice ≤ y)) :
    seed lattice (level + 1) x y =
      (do
        let half := sideOfLevel level
        let sw ← seed lattice level x y
        let se ← seed lattice level (x + half) y
        let nw ← seed lattice level x (y + half)
        let ne ← seed lattice level (x + half) (y + half)
        node ⟨sw, se, nw, ne⟩) := by
  rw [seed, if_neg hWithin]

/- A seed shows the plane from its corner on. -/
theorem makes_seed
    (hReadable : Lattice.Readable lattice)
    (arena : Arena)
    {level : Nat}
    (hMax : level ≤ maxLevel)
    (x y : Nat) :
    Makes (seed lattice level x y) arena level
      (Square.ofPlane level
        ((Lattice.plane lattice).shift x y)) := by
  have hWalled := Lattice.walledOutside_plane lattice
  fun_induction seed lattice level x y with
  | case1 level x y hBeyond =>
      rw [Square.ofPlane_of_beyond hWalled level (by omega)]
      exact makes_wall arena hMax
  | case2 x y hWithin =>
      intro later hSound hLater
      rw [Square.ofPlane_site]
      refine Ensures.bind_lift
        (hReadable.cellAt_eq (by omega) (by omega)) ?_
      exact makes_leaf later _ later hSound
        (Extends.refl later)
  | case3 x y hWithin level half hSw hSe hNw hNe =>
      intro later hSound hLater
      have hBelow : level ≤ maxLevel := Nat.le_of_succ_le hMax
      have hHigher := Nat.le_succ level
      let squares :=
        Square.quadAt level (Lattice.plane lattice) x y
      rw [← Square.ofQuad_quadAt]
      refine Ensures.bind_four squares hSound hLater
        ((hSw hBelow).mono hHigher) ((hSe hBelow).mono hHigher)
        ((hNw hBelow).mono hHigher) ((hNe hBelow).mono hHigher)
        ?_
      intro ids after hAfter _ hIds
      refine (ensures_node hAfter hIds hMax
        (Nat.le_refl _)).mono (Nat.le_refl _) ?_
      rintro id last - ⟨hId, -⟩
      exact hId

/- A seed that was made has read all its cells. -/
theorem readable_of_seed
    {arena after : Arena}
    {root : NodeId}
    {level x y : Nat}
    (hSeed : seed lattice level x y arena = .ok (root, after))
    {i j : Nat}
    (hx : x ≤ i ∧ i < x + sideOfLevel level)
    (hy : y ≤ j ∧ j < y + sideOfLevel level)
    (hi : i < Lattice.side lattice)
    (hj : j < Lattice.side lattice) :
    ∃ cell, Lattice.cellAt lattice i j = .ok cell := by
  have hWithin :
      ¬ (Lattice.side lattice ≤ x ∨
        Lattice.side lattice ≤ y) := by
    omega
  induction level generalizing x y arena after root with
  | zero =>
      rw [sideOfLevel_zero] at hx hy
      have hSameX : i = x := by omega
      have hSameY : j = y := by omega
      subst hSameX hSameY
      rw [seed_zero hWithin] at hSeed
      rcases bind_eq_ok hSeed with ⟨cell, middle, hRead, -⟩
      exact ⟨cell, (lift_eq_ok hRead).1⟩
  | succ level ih =>
      rw [sideOfLevel_succ] at hx hy
      rw [seed_succ hWithin] at hSeed
      rcases bind_eq_ok hSeed with ⟨sw, _, hSw, hRest⟩
      rcases bind_eq_ok hRest with ⟨se, _, hSe, hRest⟩
      rcases bind_eq_ok hRest with ⟨nw, _, hNw, hRest⟩
      rcases bind_eq_ok hRest with ⟨ne, _, hNe, -⟩
      -- The site lies in one of the four quadrants.
      by_cases hEast : x + sideOfLevel level ≤ i
      · by_cases hNorth : y + sideOfLevel level ≤ j
        · exact ih hNe (by omega) (by omega) (by omega)
        · exact ih hSe (by omega) (by omega) (by omega)
      · by_cases hNorth : y + sideOfLevel level ≤ j
        · exact ih hNw (by omega) (by omega) (by omega)
        · exact ih hSw (by omega) (by omega) (by omega)

end Building

end LatticeGas

------------------------------------------------------------
-- Lattices with the Same Cells
------------------------------------------------------------

namespace LatticeGas

section

variable {L M : Type}
variable [Lattice L]
variable [Lattice M]
variable {first : L}
variable {second : M}

/- A seed reads the cells of its lattice and nothing else. -/
theorem Building.seed_congr
    (hSide : Lattice.side first = Lattice.side second)
    (hCells :
      ∀ x y : Nat,
        x < Lattice.side first → y < Lattice.side first →
          Lattice.cellAt first x y =
            Lattice.cellAt second x y)
    (level x y : Nat) :
    seed first level x y = seed second level x y := by
  fun_induction seed first level x y with
  | case1 level x y hBeyond =>
      rw [seed_of_beyond (hSide ▸ hBeyond)]
  | case2 x y hWithin =>
      rw [seed_zero (hSide ▸ hWithin),
        hCells x y (by omega) (by omega)]
  | case3 x y hWithin level half hSw hSe hNw hNe =>
      rw [seed_succ (hSide ▸ hWithin), hSw, hSe, hNw, hNe]

/- So do trackers, which are equal down to their arenas. -/
theorem Tracker.build_congr
    (hSide : Lattice.side first = Lattice.side second)
    (hCells :
      ∀ x y : Nat,
        x < Lattice.side first → y < Lattice.side first →
          Lattice.cellAt first x y =
            Lattice.cellAt second x y)
    (config : Config) :
    build first config = build second config := by
  unfold build ofLattice
  simp only [Building.seed_congr hSide hCells, hSide]

end

end LatticeGas

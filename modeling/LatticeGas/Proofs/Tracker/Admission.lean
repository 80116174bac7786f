import LatticeGas.Proofs.Tracker.Capacity
import LatticeGas.Proofs.Tracker.Progression

/-
  This file shows which lattices a tracker is built from, and
  what the tracker is then. Only the side of a lattice decides
  whether it is refused, and only the cells below its side are
  read. The others are built, if there are numbers for all
  nodes.

  Key definitions include:
    * `Tracker.Seeds`

  Key theorems include:
    * `Tracker.seedLevel_eq_64`
    * `Tracker.build_eq_refused_iff`
    * `Tracker.seeds_of_build_eq_ok`
    * `Tracker.build_of_side`
-/

------------------------------------------------------------
-- Refused Lattices
------------------------------------------------------------

namespace LatticeGas

namespace Tracker

variable {L : Type}
variable [Lattice L]

/-
  Sides that need all 64 bits have the level 64, although the
  next power of two does not fit into them.
-/
theorem seedLevel_eq_64
    {side : Nat}
    (hLarge : 2 ^ 63 < side)
    (hBits : side < 2 ^ 64) :
    seedLevel side = 64 := by
  have hEnough : seedLevel side ≤ 64 := by
    rw [seedLevel_le_iff]
    exact Nat.le_of_lt hBits
  have hTooSmall : ¬ seedLevel side ≤ 63 := by
    rw [seedLevel_le_iff, sideOfLevel_eq_pow]
    omega
  omega

/- A lattice is refused because of its side alone. -/
theorem build_eq_refused_iff
    (lattice : L)
    (config : Config)
    (error : LatticeError) :
    build lattice config = .error (.refused error) ↔
      Lattice.side lattice = 0 ∧ error = .emptyLattice ∨
        2 ^ 36 < Lattice.side lattice ∧
          error =
            .levelTooLarge (Lattice.side lattice)
              (seedLevel (Lattice.side lattice))
              maxSeedLevel := by
  have hTooLarge :=
    seedLevel_le_maxSeedLevel_iff (Lattice.side lattice)
  rw [← Nat.not_le, ← hTooLarge, Nat.not_le]
  unfold build
  by_cases hEmpty : Lattice.side lattice = 0
  · have hLevel : ¬ maxSeedLevel < seedLevel 0 := by decide
    simp [hEmpty, hLevel, eq_comm]
  · by_cases hLarge :
        maxSeedLevel < seedLevel (Lattice.side lattice)
    · simp [hEmpty, hLarge, eq_comm]
    · simp only [hEmpty, hLarge, if_false, false_and,
        or_self, iff_false]
      intro hRefused
      split at hRefused
      · cases hRefused
      · cases hRefused

end Tracker

end LatticeGas

------------------------------------------------------------
-- Seeded Trackers
------------------------------------------------------------

namespace LatticeGas

namespace Tracker

variable {L : Type}
variable [Lattice L]
variable {lattice : L}

/-
  The tracker is new. Its region is all of the lattice and
  starts in the lower corner of a square of the level, which
  has the cells of the lattice there and walls elsewhere.
-/
structure Seeds
    (lattice : L)
    (level : Nat)
    (built : Tracker) : Prop where
  level_eq : built.level = .ok level
  region_eq :
    built.region =
      ⟨0, 0, Lattice.side lattice, Lattice.side lattice⟩
  elapsed_eq : built.elapsed = 0
  cell_inside :
    ∀ x y : Nat,
      x < Lattice.side lattice → y < Lattice.side lattice →
        ∃ cell,
          Lattice.cellAt lattice x y = .ok cell ∧
            built.arena.cellAt built.root x y = .ok cell
  wall_outside :
    ∀ x y : Nat,
      x < sideOfLevel level → y < sideOfLevel level →
        ¬ (x < Lattice.side lattice ∧
          y < Lattice.side lattice) →
          built.arena.cellAt built.root x y = .ok .wall

/- It shows the cells of the lattice, as any lattice does. -/
theorem Seeds.cellAt_eq
    {level : Nat}
    {built : Tracker}
    (hSeeds : Seeds lattice level built)
    {x y : Nat}
    (hx : x < Lattice.side lattice)
    (hy : y < Lattice.side lattice) :
    built.cellAt x y = Lattice.cellAt lattice x y := by
  rcases hSeeds.cell_inside x y hx hy with
    ⟨cell, hCell, hFound⟩
  rw [hCell, ← hFound]
  unfold Tracker.cellAt
  simp only [hSeeds.region_eq, Nat.zero_add,
    (require_eq_ok_iff _ _).mpr (And.intro hx hy)]
  rfl

/- A tracker that was built is one of the lattice. -/
theorem seeds_of_build_eq_ok
    {config : Config}
    {built : Tracker}
    (hBuild : build lattice config = .ok built) :
    Seeds lattice (seedLevel (Lattice.side lattice))
      built := by
  have hSide := le_sideOfLevel_seedLevel (Lattice.side lattice)
  have hWalled := Lattice.walledOutside_plane lattice
  rcases of_build_eq_ok hBuild with ⟨hReadable, -, -⟩
  rcases shows_of_build_eq_ok hBuild (Nat.le_refl _) with
    ⟨hShows, hTime⟩
  refine ⟨hShows.level_eq, hShows.region_eq, hTime, ?_, ?_⟩
  · intro x y hx hy
    refine ⟨_, hReadable.cellAt_eq hx hy, ?_⟩
    rw [hShows.arena_cellAt_eq (Nat.lt_of_lt_of_le hx hSide)
      (Nat.lt_of_lt_of_le hy hSide), hTime]
    simp [Plane.run]
  · intro x y hx hy hOutside
    refine hShows.wall_outside hWalled hx hy ?_
    simp only
    omega

/-
  A lattice is refused as empty if its side is zero, and as
  too large if its side is above `2 ^ 36`. The level that is
  reported is the rounded logarithm of the side, also if no
  power of two with 64 bits is as large. A tracker is built
  from every other lattice that can be read, unless it takes
  more nodes than there are numbers. In any case the result
  depends on nothing but the side of the lattice and the cells
  below its side, down to the arena.
-/
theorem build_of_side
    (lattice : L)
    (config : Config) :
    (build lattice config =
        .error (.refused .emptyLattice) ↔
      Lattice.side lattice = 0) ∧
    (build lattice config =
        .error (.refused (.levelTooLarge
          (Lattice.side lattice)
          (Nat.clog 2 (Lattice.side lattice)) 36)) ↔
      2 ^ 36 < Lattice.side lattice) ∧
    (2 ^ 63 < Lattice.side lattice →
      Lattice.side lattice < 2 ^ 64 →
        build lattice config =
          .error (.refused (.levelTooLarge
            (Lattice.side lattice) 64 36))) ∧
    (Lattice.Readable lattice →
      0 < Lattice.side lattice →
      Lattice.side lattice ≤ 2 ^ 36 →
        Overfull lattice config ∧
            build lattice config =
              .error (.broken .exhausted) ∨
          ¬ Overfull lattice config ∧
            ∃ built,
              build lattice config = .ok built ∧
                Seeds lattice
                  (Nat.clog 2 (Lattice.side lattice))
                  built) ∧
    (∀ (M : Type) [Lattice M] (other : M),
      Lattice.side lattice = Lattice.side other →
      (∀ x y : Nat,
        x < Lattice.side lattice →
          y < Lattice.side lattice →
            Lattice.cellAt lattice x y =
              Lattice.cellAt other x y) →
        build lattice config = build other config) := by
  have hRefused := build_eq_refused_iff lattice config
  refine ⟨?_, ?_, ?_, ?_, ?_⟩
  · rw [hRefused]
    simp
  · rw [hRefused, ← seedLevel_eq_clog]
    simp [maxSeedLevel, maxLevel]
  · intro hLarge hBits
    rw [hRefused, seedLevel_eq_64 hLarge hBits]
    exact .inr ⟨by omega, rfl⟩
  · intro hReadable hPos hSize
    rw [← seedLevel_eq_clog]
    refine (build_cases_of_overfull config hReadable hPos
      (seedLevel_le_maxSeedLevel hSize)).imp_right ?_
    rintro ⟨hEnough, built, hBuild⟩
    exact ⟨hEnough, built, hBuild,
      seeds_of_build_eq_ok hBuild⟩
  · intro M _ other hSide hCells
    exact build_congr hSide hCells config

/- Three sides, and a tracker that is built from another. -/
theorem build_of_side_three_wide :
    build (⟨0, Cell.lone .xPos⟩ : Uniform)
          ⟨false, true, none⟩ =
        .error (.refused .emptyLattice) ∧
      build (⟨2 ^ 63 + 1, Cell.lone .xPos⟩ : Uniform)
          ⟨false, true, none⟩ =
        .error (.refused
          (.levelTooLarge (2 ^ 63 + 1) 64 36)) ∧
      ∃ built,
        build (⟨3, Cell.lone .xPos⟩ : Uniform)
            ⟨false, true, none⟩ = .ok built ∧
          built.level = .ok 2 ∧
          built.arena.cellAt built.root 2 1 =
            .ok (.lone .xPos) ∧
          built.arena.cellAt built.root 3 0 = .ok .wall ∧
          build built ⟨false, true, none⟩ = .ok built := by
  let config : Config := ⟨false, true, none⟩
  have hEmpty :=
    build_of_side (⟨0, Cell.lone .xPos⟩ : Uniform) config
  have hLarge := build_of_side
    (⟨2 ^ 63 + 1, Cell.lone .xPos⟩ : Uniform) config
  have hThree :=
    build_of_side (⟨3, Cell.lone .xPos⟩ : Uniform) config
  have hBits : 2 ^ 63 < 2 ^ 63 + 1 ∧ 2 ^ 63 + 1 < 2 ^ 64 := by
    decide
  have hFew :
      ¬ Overfull (⟨3, Cell.lone .xPos⟩ : Uniform) config :=
    (by decide : ¬ greatestSide < 3)
  refine ⟨hEmpty.1.mpr rfl, hLarge.2.2.1 hBits.1 hBits.2,
    ?_⟩
  rcases (hThree.2.2.2.1 (Lattice.readable_uniform _)
      (by decide) (by decide)).resolve_left
        fun hOver => hFew hOver.1 with
    ⟨-, built, hBuild, hSeeds⟩
  have hLevel : Nat.clog 2 3 = 2 := by decide
  have hSide : 3 = Lattice.side built :=
    (congrArg Region.width hSeeds.region_eq).symm
  rcases hSeeds.cell_inside 2 1 (by decide) (by decide) with
    ⟨cell, hLone, hCell⟩
  cases hLone
  refine ⟨built, hBuild, ?_, hCell,
    hSeeds.wall_outside 3 0 ?_ ?_ (by decide), ?_⟩
  · rw [hSeeds.level_eq]
    exact congrArg Except.ok hLevel
  · change 3 < sideOfLevel (Nat.clog 2 3)
    rw [hLevel]
    decide
  · exact sideOfLevel_pos _
  · rw [← hBuild]
    refine (hThree.2.2.2.2 Tracker built hSide ?_).symm
    exact fun x y hx hy => (hSeeds.cellAt_eq hx hy).symm

/- The first lattice with more nodes than there are numbers. -/
theorem build_exhausted :
    0 < 56756 ∧ 56756 ≤ 2 ^ 36 ∧
      build (⟨56756, Cell.empty⟩ : Uniform)
          ⟨false, true, none⟩ =
        .error (.broken .exhausted) := by
  refine ⟨by decide, by decide, ?_⟩
  rcases build_cases_of_overfull ⟨false, true, none⟩
      (Lattice.readable_uniform ⟨56756, Cell.empty⟩)
      (by decide) (by decide) with
    ⟨-, hBuild⟩ | ⟨hEnough, -⟩
  · exact hBuild
  · exact absurd (by decide : greatestSide < 56756) hEnough

end Tracker

end LatticeGas

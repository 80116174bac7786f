import LatticeGas.Proofs.Grid.Simulation

/-
  This file shows what a random gas looks like, and how it
  depends on its temperature, for every generator of random
  values. Two gases of one seed are drawn from the same states
  up to the first site at which they differ, and there the
  warmer one has the particles.

  Key definitions include:
    * `Randomness.Draw.left`
    * `Fill.levelAt`
    * `Fill.fieldAt`
    * `Fill.Drawn`
    * `Fill.Warmer`
    * `Fill.Precedes`

  Key theorems include:
    * `Randomness.Draw.getElem?_mapM`
    * `Randomness.Draw.eq_or_splits`
    * `Fill.drawn_cellOf`
    * `Fill.drawCell_eq_or_warmer`
    * `Fill.cells_eq_or_warmer`
    * `Grid.random_fill`
-/

------------------------------------------------------------
-- Draws in a Row
------------------------------------------------------------

namespace LatticeGas

namespace Randomness

namespace Draw

variable {S A B : Type}

/- One draw after another goes on from its state. -/
theorem run_bind
    (first : Draw S A)
    (next : A → Draw S B)
    (state : S) :
    (first >>= next).run state =
      (next (first.run state).1).run (first.run state).2 :=
  rfl

/- The state that is left after so many of the draws. -/
def left
    (draw : A → Draw S B)
    (sources : List A)
    (state : S)
    (index : Nat) : S :=
  (((sources.take index).mapM draw).run state).2

theorem run_mapM_cons
    (draw : A → Draw S B)
    (source : A)
    (sources : List A)
    (state : S) :
    ((source :: sources).mapM draw).run state =
      (((draw source).run state).1 ::
          ((sources.mapM draw).run
            ((draw source).run state).2).1,
        ((sources.mapM draw).run
          ((draw source).run state).2).2) := by
  rw [List.mapM_cons]
  rfl

@[simp] theorem left_cons_succ
    (draw : A → Draw S B)
    (source : A)
    (sources : List A)
    (state : S)
    (index : Nat) :
    left draw (source :: sources) state (index + 1) =
      left draw sources ((draw source).run state).2 index := by
  rw [left, List.take_succ_cons, run_mapM_cons]
  rfl

/- Each draw starts from the state that the last one left. -/
theorem getElem?_mapM
    (draw : A → Draw S B)
    {sources : List A}
    (state : S)
    {index : Nat}
    {source : A}
    (hSource : sources[index]? = some source) :
    ((sources.mapM draw).run state).1[index]? =
      some ((draw source).run
        (left draw sources state index)).1 := by
  induction sources generalizing state index with
  | nil => cases hSource
  | cons first sources ih =>
      rw [run_mapM_cons]
      cases index with
      | zero =>
          cases hSource
          rfl
      | succ index =>
          rw [List.getElem?_cons_succ] at hSource
          rw [left_cons_succ, List.getElem?_cons_succ]
          exact ih _ hSource

/-
  Two ways to draw, which do the same or else split at once,
  give the same in all, or they split at some place, and give
  the same up to there.
-/
theorem eq_or_splits
    {draw draw' : A → Draw S B}
    {Splits : B → B → Prop}
    {sources : List A}
    {state : S}
    (hStep :
      ∀ (index : Nat) (source : A),
        sources[index]? = some source →
          let here := left draw sources state index
          (draw source).run here =
              (draw' source).run here ∨
            Splits ((draw source).run here).1
              ((draw' source).run here).1) :
    (sources.mapM draw).run state =
        (sources.mapM draw').run state ∨
      ∃ (before : List B) (value value' : B)
        (after after' : List B),
        ((sources.mapM draw).run state).1 =
            before ++ value :: after ∧
          ((sources.mapM draw').run state).1 =
            before ++ value' :: after' ∧
          Splits value value' := by
  induction sources generalizing state with
  | nil => exact Or.inl rfl
  | cons source sources ih =>
      rw [run_mapM_cons, run_mapM_cons]
      rcases hStep 0 source rfl with hSame | hSplit
      · have hRest :
            ∀ (index : Nat) (other : A),
              sources[index]? = some other →
                let here := left draw sources
                  ((draw source).run state).2 index
                (draw other).run here =
                    (draw' other).run here ∨
                  Splits ((draw other).run here).1
                    ((draw' other).run here).1 := by
          intro index other hOther
          have hLater := hStep (index + 1) other hOther
          rwa [left_cons_succ] at hLater
        have hSame :
            (draw source).run state =
              (draw' source).run state := hSame
        rw [← hSame]
        rcases ih hRest with hEqual | hSplits
        · left
          rw [hEqual]
        · right
          rcases hSplits with
            ⟨before, value, value', after, after', hFirst,
              hSecond, hSplit⟩
          refine ⟨((draw source).run state).1 :: before,
            value, value', after, after', ?_, ?_, hSplit⟩
          · rw [hFirst, List.cons_append]
          · rw [hSecond, List.cons_append]
      · right
        exact ⟨[], _, _, _, _, rfl, rfl, hSplit⟩

end Draw

end Randomness

end LatticeGas

------------------------------------------------------------
-- The Cell of a Site
------------------------------------------------------------

namespace LatticeGas

namespace Fill

open Randomness

variable {generator : Generator}
variable {side x y : Nat}
variable {temperature : Float}

/- The state from which the cell of a site is drawn. -/
def stateAt
    (generator : Generator)
    (side : Nat)
    (temperature : Float)
    (seed : UInt64)
    (x y : Nat) : generator.State :=
  Draw.left (drawCell generator side temperature) (sites side)
    (generator.ofSeed seed) (x * side + y)

/- The number that is compared with the temperature. -/
def levelAt
    (generator : Generator)
    (side : Nat)
    (temperature : Float)
    (seed : UInt64)
    (x y : Nat) : Float :=
  (generator.unit.run
    (stateAt generator side temperature seed x y)).1

/- The particles that a site has if it is occupied. -/
def fieldAt
    (generator : Generator)
    (side : Nat)
    (temperature : Float)
    (seed : UInt64)
    (x y : Nat) : Nat :=
  let state := stateAt generator side temperature seed x y
  1 + ((generator.below 15).run (generator.unit.run state).2).1

/- The stripe does not take any state. -/
theorem run_drawCell_inStripe
    (hStripe : InStripe side x y)
    (temperature : Float)
    (state : generator.State) :
    (drawCell generator side temperature (x, y)).run state =
      (Cell.lone .xPos, state) := by
  unfold drawCell
  rw [if_pos hStripe]
  rfl

/- An occupied cell takes more state than an empty one. -/
theorem run_drawCell
    (hStripe : ¬ InStripe side x y)
    (temperature : Float)
    (state : generator.State) :
    (drawCell generator side temperature (x, y)).run state =
      let drawn := generator.unit.run state
      if drawn.1 < temperature then
        (drawOccupied generator).run drawn.2
      else
        (Cell.empty, drawn.2) := by
  unfold drawCell
  rw [if_neg hStripe, Draw.run_bind]
  dsimp only
  split
  · rfl
  · rfl

/- The cell of a site is drawn from the state left for it. -/
theorem cellOf_eq_drawCell
    (temperature : Float)
    (seed : UInt64)
    (hx : x < side)
    (hy : y < side) :
    cellOf generator side temperature seed x y =
      ((drawCell generator side temperature (x, y)).run
        (stateAt generator side temperature seed x y)).1 := by
  have hCell :=
    Draw.getElem?_mapM (drawCell generator side temperature)
      (generator.ofSeed seed) (getElem?_sites hx hy)
  rw [cellOf, List.getD_eq_getElem?_getD, cells, hCell]
  rfl

theorem cellOf_inStripe
    (temperature : Float)
    (seed : UInt64)
    (hx : x < side)
    (hy : y < side)
    (hStripe : InStripe side x y) :
    cellOf generator side temperature seed x y =
      Cell.lone .xPos := by
  rw [cellOf_eq_drawCell temperature seed hx hy,
    run_drawCell_inStripe hStripe]

/- Elsewhere the number decides whether there are particles. -/
theorem cellOf_eq
    (temperature : Float)
    (seed : UInt64)
    (hx : x < side)
    (hy : y < side)
    (hStripe : ¬ InStripe side x y) :
    cellOf generator side temperature seed x y =
      if levelAt generator side temperature seed x y <
          temperature then
        .gas (Flow.ofBits
          (fieldAt generator side temperature seed x y))
      else
        Cell.empty := by
  rw [cellOf_eq_drawCell temperature seed hx hy,
    run_drawCell hStripe, levelAt, fieldAt]
  dsimp only
  split
  · rfl
  · rfl

/- The field has four bits, and at least one of them is set. -/
theorem fieldAt_bounds
    (generator : Generator)
    (side : Nat)
    (temperature : Float)
    (seed : UInt64)
    (x y : Nat) :
    1 ≤ fieldAt generator side temperature seed x y ∧
      fieldAt generator side temperature seed x y ≤ 15 := by
  have hBelow :=
    generator.below_lt 15
      (generator.unit.run
        (stateAt generator side temperature seed x y)).2
      (by decide) (by decide)
  dsimp only [fieldAt]
  omega

/-
  A cell that is drawn for a site has the one particle of the
  stripe, or the particles of a field that is accepted, or it
  is empty.
-/
structure Drawn
    (generator : Generator)
    (side : Nat)
    (temperature : Float)
    (seed : UInt64)
    (x y : Nat)
    (cell : Cell) : Prop where
  not_isWall : cell.isWall = false
  bits_le : cell.bits ≤ 15
  of_inStripe :
    InStripe side x y → cell = Cell.lone .xPos
  of_below :
    ¬ InStripe side x y →
      levelAt generator side temperature seed x y <
          temperature →
        1 ≤ fieldAt generator side temperature seed x y ∧
          fieldAt generator side temperature seed x y ≤ 15 ∧
          Cell.ofBits?
            (fieldAt generator side temperature seed x y) =
              .ok cell
  of_not_below :
    ¬ InStripe side x y →
      ¬ levelAt generator side temperature seed x y <
          temperature →
        cell = Cell.empty

theorem drawn_cellOf
    (temperature : Float)
    (seed : UInt64)
    (hx : x < side)
    (hy : y < side) :
    Drawn generator side temperature seed x y
      (cellOf generator side temperature seed x y) := by
  have hBounds :=
    fieldAt_bounds generator side temperature seed x y
  by_cases hStripe : InStripe side x y
  · rw [cellOf_inStripe temperature seed hx hy hStripe]
    exact ⟨rfl, by decide, fun _ => rfl,
      fun hOther => absurd hStripe hOther,
      fun hOther => absurd hStripe hOther⟩
  · rw [cellOf_eq temperature seed hx hy hStripe]
    by_cases hLevel :
        levelAt generator side temperature seed x y <
          temperature
    · rw [if_pos hLevel]
      refine ⟨rfl, ?_, fun hOther => absurd hOther hStripe,
        fun _ _ => ⟨hBounds.1, hBounds.2, ?_⟩,
        fun _ hOther => absurd hLevel hOther⟩
      · exact Nat.le_of_lt_succ (Flow.bits_lt _)
      · exact if_pos (by omega)
    · rw [if_neg hLevel]
      exact ⟨rfl, by decide,
        fun hOther => absurd hOther hStripe,
        fun _ hOther => absurd hOther hLevel,
        fun _ _ => rfl⟩

end Fill

end LatticeGas

------------------------------------------------------------
-- Two Temperatures
------------------------------------------------------------

namespace LatticeGas

namespace Fill

open Randomness

variable {generator : Generator}
variable {side x y : Nat}
variable {cool warm : Float}
variable {seed : UInt64}

/- One site has no particles, and the other one has some. -/
structure Warmer (cell cell' : Cell) : Prop where
  eq_empty : cell = Cell.empty
  one_le_bits : 1 ≤ cell'.bits

/- A cell with particles is drawn. -/
theorem one_le_bits_drawOccupied
    (state : generator.State) :
    1 ≤ ((drawOccupied generator).run state).1.bits := by
  have hBelow :=
    generator.below_lt 15 state (by decide) (by decide)
  have hField :
      1 + ((generator.below 15).run state).1 < 16 := by omega
  change
    1 ≤ (Flow.ofBits
      (1 + ((generator.below 15).run state).1)).bits
  rw [Flow.bits_ofBits hField]
  omega

/-
  From the same state the same is drawn at both temperatures,
  unless the number is below only one of them.
-/
theorem drawCell_eq_or_warmer
    (state : generator.State)
    (hWarm :
      ¬ InStripe side x y →
        (generator.unit.run state).1 < cool →
          (generator.unit.run state).1 < warm) :
    (drawCell generator side cool (x, y)).run state =
        (drawCell generator side warm (x, y)).run state ∨
      Warmer
        ((drawCell generator side cool (x, y)).run state).1
        ((drawCell generator side warm (x, y)).run
          state).1 := by
  by_cases hStripe : InStripe side x y
  · left
    rw [run_drawCell_inStripe hStripe,
      run_drawCell_inStripe hStripe]
  · rw [run_drawCell hStripe, run_drawCell hStripe]
    dsimp only
    by_cases hCool : (generator.unit.run state).1 < cool
    · left
      rw [if_pos hCool, if_pos (hWarm hStripe hCool)]
    · by_cases hOnly : (generator.unit.run state).1 < warm
      · right
        rw [if_neg hCool, if_pos hOnly]
        exact ⟨rfl, one_le_bits_drawOccupied _⟩
      · left
        rw [if_neg hCool, if_neg hOnly]

/- A site has one place in the fill order. -/
theorem of_getElem?_sites
    {index : Nat}
    (hSite : (sites side)[index]? = some (x, y)) :
    x < side ∧ y < side ∧ index = x * side + y := by
  have hMem :=
    mem_sites_iff.mp (List.mem_of_getElem? hSite)
  have hIndex := (List.getElem?_eq_some_iff.mp hSite).choose
  have hSame := getElem?_sites hMem.1 hMem.2
  exact ⟨hMem.1, hMem.2,
    (List.getElem?_inj hIndex (nodup_sites side)).mp
      (hSite.trans hSame.symm)⟩

/- The site comes before the other one in the fill order. -/
def Precedes (x y x' y' : Nat) : Prop :=
  x < x' ∨ x = x' ∧ y < y'

theorem Precedes.position_lt
    {x' y' : Nat}
    (hBefore : Precedes x y x' y')
    (hy : y < side) :
    x * side + y < x' * side + y' := by
  rcases hBefore with hColumn | ⟨rfl, hRow⟩
  · have hColumns : (x + 1) * side ≤ x' * side :=
      Nat.mul_le_mul_right side hColumn
    rw [Nat.succ_mul] at hColumns
    omega
  · omega

/-
  Two gases are the same, or they differ first at a site where
  only the warmer one has particles. For this the numbers that
  are drawn are not below the lower temperature alone.
-/
theorem cells_eq_or_warmer
    (hWarm :
      ∀ x y, x < side → y < side →
        ¬ InStripe side x y →
          levelAt generator side cool seed x y < cool →
            levelAt generator side cool seed x y < warm) :
    cells generator side cool seed =
        cells generator side warm seed ∨
      ∃ x y, x < side ∧ y < side ∧
        Warmer (cellOf generator side cool seed x y)
          (cellOf generator side warm seed x y) ∧
        ∀ x' y', x' < side → y' < side →
          Precedes x' y' x y →
            cellOf generator side cool seed x' y' =
              cellOf generator side warm seed x' y' := by
  have hStep :
      ∀ (index : Nat) (site : Nat × Nat),
        (sites side)[index]? = some site →
          let state := Draw.left (drawCell generator side cool)
            (sites side) (generator.ofSeed seed) index
          (drawCell generator side cool site).run state =
              (drawCell generator side warm site).run state ∨
            Warmer
              ((drawCell generator side cool site).run
                state).1
              ((drawCell generator side warm site).run
                state).1 := by
    rintro index ⟨x, y⟩ hSite
    rcases of_getElem?_sites hSite with ⟨hx, hy, rfl⟩
    exact drawCell_eq_or_warmer _ (hWarm x y hx hy)
  rcases Draw.eq_or_splits hStep with hSame | hSplits
  · exact Or.inl (congrArg Prod.fst hSame)
  · right
    rcases hSplits with
      ⟨before, cell, cell', after, after', hCool, hWarmed,
        hSplit⟩
    have hCool :
        cells generator side cool seed =
          before ++ cell :: after :=
      hCool
    have hWarmed :
        cells generator side warm seed =
          before ++ cell' :: after' :=
      hWarmed
    have hPlace : before.length < (sites side).length := by
      rw [← length_cells generator side cool seed, hCool]
      simp
    obtain ⟨⟨x, y⟩, hSite⟩ :
        ∃ site, (sites side)[before.length]? = some site :=
      ⟨_, List.getElem?_eq_getElem hPlace⟩
    rcases of_getElem?_sites hSite with ⟨hx, hy, hIndex⟩
    refine ⟨x, y, hx, hy, ?_, ?_⟩
    · simpa [cellOf, hCool, hWarmed, ← hIndex] using hSplit
    · intro x' y' _ hy' hBefore
      have hEarlier := hBefore.position_lt hy'
      rw [← hIndex] at hEarlier
      simp only [cellOf, hCool, hWarmed,
        List.getD_eq_getElem?_getD,
        List.getElem?_append_left hEarlier]

end Fill

end LatticeGas

------------------------------------------------------------
-- Random Grids
------------------------------------------------------------

namespace LatticeGas

namespace Grid

open Fill

variable {side : Nat}

/- A random grid is made, and it pictures what was drawn. -/
theorem exists_random
    (generator : Randomness.Generator)
    {machine : Machine}
    {config : Config}
    (hSide : 1 ≤ side)
    (hFits : side * side ≤ memoryLimit)
    {workers : Option Nat}
    (hWorkers : config.workers machine side = .ok workers)
    (temperature : Float)
    (seed : UInt64) :
    ∃ grid,
      Grid.random generator machine side temperature seed
          config = .ok grid ∧
        grid.Pictures side
          (cellOf generator side temperature seed) := by
  refine ⟨ofBoard hSide
    (board generator side temperature seed) workers,
    make_eq_ok_iff.mpr ⟨hSide, workers, _, hWorkers, hFits,
      rfl, rfl⟩, rfl, ?_⟩
  apply plane_ofBoard
  exact fun x y hx hy =>
    read_board generator temperature seed hx hy

/- Gases with the same cells make the same grid. -/
theorem random_congr
    {generator : Randomness.Generator}
    {temperature temperature' : Float}
    {seed : UInt64}
    (hCells :
      Fill.cells generator side temperature seed =
        Fill.cells generator side temperature' seed)
    (machine : Machine)
    (config : Config) :
    Grid.random generator machine side temperature seed
        config =
      Grid.random generator machine side temperature' seed
        config := by
  unfold Grid.random board
  rw [hCells]

/-
  A random gas is made for each side, seed and temperature, if
  memory can hold it and its workers are started. It has one
  particle that moves along the first axis at all the sites of
  the stripe. Each other site is empty, or it has the
  particles of a field with four bits of which not all are
  zero, as the number that is drawn for it tells. Of two gases
  of one seed, whose numbers are not below the one temperature
  alone, either both are the same, or the first site in the
  fill order at which they differ is empty in the one gas and
  is not in the other.
-/
theorem random_fill
    (generator : Randomness.Generator)
    {machine : Machine}
    {config : Config}
    (hSide : 1 ≤ side)
    (hFits : side * side ≤ memoryLimit)
    {workers : Option Nat}
    (hWorkers : config.workers machine side = .ok workers)
    (seed : UInt64) :
    (∀ temperature : Float, ∃ grid,
      Grid.random generator machine side temperature seed
          config = .ok grid ∧
        grid.side = side ∧
        ∀ x y : Nat, x < side → y < side →
          ∃ cell,
            grid.cellAt x y = .ok cell ∧
              Drawn generator side temperature seed x y
                cell) ∧
      ∀ cool warm : Float,
        (∀ x y : Nat, x < side → y < side →
          ¬ InStripe side x y →
            levelAt generator side cool seed x y < cool →
              levelAt generator side cool seed x y <
                warm) →
        ∃ grid grid',
          Grid.random generator machine side cool seed
              config = .ok grid ∧
            Grid.random generator machine side warm seed
              config = .ok grid' ∧
            (grid = grid' ∨
              ∃ x y cell',
                x < side ∧ y < side ∧
                  grid.cellAt x y = .ok Cell.empty ∧
                  grid'.cellAt x y = .ok cell' ∧
                  1 ≤ cell'.bits ∧
                  ∀ x' y' : Nat, x' < side → y' < side →
                    Precedes x' y' x y →
                      grid.cellAt x' y' =
                        grid'.cellAt x' y') := by
  have hMade := fun temperature =>
    exists_random generator hSide hFits hWorkers temperature
      seed
  constructor
  · intro temperature
    rcases hMade temperature with ⟨grid, hGrid, hPictures⟩
    refine ⟨grid, hGrid, hPictures.side_eq, ?_⟩
    intro x y hx hy
    exact ⟨_, hPictures.cellAt_eq hx hy,
      drawn_cellOf temperature seed hx hy⟩
  · intro cool warm hWarm
    rcases hMade cool with ⟨grid, hGrid, hPictures⟩
    rcases hMade warm with ⟨grid', hGrid', hPictures'⟩
    refine ⟨grid, grid', hGrid, hGrid', ?_⟩
    rcases cells_eq_or_warmer hWarm with hSame | hDiffer
    · left
      have hRandom := random_congr hSame machine config
      rw [hGrid, hGrid'] at hRandom
      exact Except.ok.inj hRandom
    · right
      rcases hDiffer with ⟨x, y, hx, hy, hWarmer, hBefore⟩
      refine ⟨x, y, _, hx, hy, ?_, hPictures'.cellAt_eq hx hy,
        hWarmer.one_le_bits, ?_⟩
      · rw [hPictures.cellAt_eq hx hy, hWarmer.eq_empty]
      · intro x' y' hx' hy' hEarlier
        rw [hPictures.cellAt_eq hx' hy',
          hPictures'.cellAt_eq hx' hy',
          hBefore x' y' hx' hy' hEarlier]

/- What is below zero is below one half. -/
theorem lt_half_of_lt_zero
    {level : Float}
    (hLevel : level < 0.0) :
    level < 0.5 := by
  have hZero :
      (0.0 : Float).toModel.unpack = .zero .positive :=
    rfl
  have hHalf :
      ∃ mantissa exponent hPos,
        (0.5 : Float).toModel.unpack =
          .finite .positive mantissa exponent hPos :=
    ⟨_, _, _, rfl⟩
  rcases hHalf with ⟨mantissa, exponent, hPos, hHalf⟩
  have hBelow :
      level.toModel.unpack.lt
        (0.0 : Float).toModel.unpack = true :=
    of_decide_eq_true hLevel
  have hAbove :
      level.toModel.unpack.lt
        (0.5 : Float).toModel.unpack = true := by
    rw [hZero] at hBelow
    rw [hHalf]
    -- Only a negative number or infinity is below zero.
    generalize level.toModel.unpack = unpacked at hBelow ⊢
    rcases unpacked with (_ | _) | _ | _ | (_ | _) <;>
      first | rfl | cases hBelow
  exact decide_eq_true hAbove

/-
  The site `(0, 5)` of a grid with a side of ten is in the
  stripe. The gas of temperature zero is not the warmer one.
-/
theorem random_fill_ten_wide :
    ∃ grid grid',
      Grid.random Randomness.Generator.standard
          Machine.sequential 10 0.0 7 {} = .ok grid ∧
        Grid.random Randomness.Generator.standard
          Machine.sequential 10 0.5 7 {} = .ok grid' ∧
        grid.cellAt 0 5 = .ok (Cell.lone .xPos) ∧
        (grid = grid' ∨
          ∃ x y cell',
            grid.cellAt x y = .ok Cell.empty ∧
              grid'.cellAt x y = .ok cell' ∧
              1 ≤ cell'.bits) := by
  have hSide : 1 ≤ 10 := by decide
  have hFits : 10 * 10 ≤ memoryLimit := by decide
  have hWorkers :
      Config.workers {} Machine.sequential 10 = .ok none :=
    rfl
  rcases random_fill Randomness.Generator.standard hSide
      hFits hWorkers 7 with ⟨hMade, hPairs⟩
  rcases hPairs 0.0 0.5
      (fun _ _ _ _ _ hLevel => lt_half_of_lt_zero hLevel) with
    ⟨grid, grid', hGrid, hGrid', hDiffer⟩
  rcases hMade 0.0 with ⟨found, hFound, -, hCells⟩
  obtain rfl : grid = found :=
    Except.ok.inj (hGrid.symm.trans hFound)
  rcases hCells 0 5 (by decide) (by decide) with
    ⟨cell, hCell, hDrawn⟩
  rw [hDrawn.of_inStripe (by decide)] at hCell
  refine ⟨grid, grid', hGrid, hGrid', hCell, ?_⟩
  rcases hDiffer with
    hSame | ⟨x, y, cell', -, -, hEmpty, hSome, hBits, -⟩
  · exact Or.inl hSame
  · exact Or.inr ⟨x, y, cell', hEmpty, hSome, hBits⟩

/- The first side for which memory cannot hold the cells. -/
theorem random_overfull :
    1 ≤ 3037000500 ∧
      Grid.random Randomness.Generator.standard
          Machine.sequential 3037000500 0.0 0 {} =
        .error (.broken .capacityOverflow) :=
  ⟨by decide, rfl⟩

end Grid

end LatticeGas

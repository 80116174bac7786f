import LatticeGas.Level
import LatticeGas.Plane
import LatticeGas.Quad

/-
  This file defines quad-trees of cells as plain values, and
  the macro step on them. They say what the nodes of an arena
  stand for, without sharing and without remembered steps.

  Key definitions include:
    * `Square`
    * `Square.quadrants`
    * `Square.ofQuad`
    * `Square.uniform`
    * `Square.cellAt`
    * `Square.AgreesWith`
    * `Square.advance`
-/

------------------------------------------------------------
-- Squares
------------------------------------------------------------

namespace LatticeGas

/-
  A square of level `l` has `2 ^ l` cells along each axis. It
  is one cell, or four quadrants of the level below.
-/
inductive Square : Nat → Type where
  | leaf (cell : Cell) : Square 0
  | node {level : Nat}
      (sw se nw ne : Square level) : Square (level + 1)
  deriving DecidableEq

namespace Square

/- The cell of a square of level zero. -/
def value : Square 0 → Cell
| .leaf cell => cell

/- The quadrants of a larger square. -/
def quadrants
    {level : Nat} :
    Square (level + 1) → Quad (Square level)
| .node sw se nw ne => ⟨sw, se, nw, ne⟩

/- The square with the given quadrants. -/
def ofQuad
    {level : Nat}
    (quad : Quad (Square level)) : Square (level + 1) :=
  .node quad.sw quad.se quad.nw quad.ne

@[simp] theorem quadrants_ofQuad
    {level : Nat}
    (quad : Quad (Square level)) :
    (ofQuad quad).quadrants = quad :=
  rfl

@[simp] theorem ofQuad_quadrants
    {level : Nat}
    (square : Square (level + 1)) :
    ofQuad square.quadrants = square := by
  cases square
  rfl

/- The square whose cells are all the same. -/
def uniform (cell : Cell) : (level : Nat) → Square level
| 0 => .leaf cell
| level + 1 => ofQuad (Quad.all (uniform cell level))

/- The cell at `(x, y)` of a square. -/
def cellAt :
    {level : Nat} → Square level → (x y : Nat) → Cell
| 0, square, _, _ => square.value
| level + 1, square, x, y =>
    let half := sideOfLevel level
    let quadrant := square.quadrants.quadrant
      (decide (half ≤ x)) (decide (half ≤ y))
    quadrant.cellAt
      (if half ≤ x then x - half else x)
      (if half ≤ y then y - half else y)

@[simp] theorem cellAt_uniform
    (cell : Cell)
    (level x y : Nat) :
    (uniform cell level).cellAt x y = cell := by
  induction level generalizing x y with
  | zero => rfl
  | succ level ih =>
      simp only [cellAt, uniform, quadrants_ofQuad,
        Quad.quadrant_all, ih]

/- The square shows the cells of a plane, from its origin on. -/
def AgreesWith
    {level : Nat}
    (square : Square level)
    (plane : Plane) : Prop :=
  ∀ x y : Nat,
    x < sideOfLevel level → y < sideOfLevel level →
      square.cellAt x y = plane x y

end Square

end LatticeGas

------------------------------------------------------------
-- The Macro Step
------------------------------------------------------------

namespace LatticeGas

namespace Square

/- The cells of a square of level two. -/
def block (square : Square 2) : Quad (Quad Cell) :=
  square.quadrants.map fun quadrant =>
    quadrant.quadrants.map value

/-
  The middle of a square of level `l + 2`, which is `2 ^ l`
  ticks later. It is put together from the steps of windows
  of the level below: three along each axis for the first
  half of the ticks, two along each axis for the second half.
-/
def advance :
    {level : Nat} → Square (level + 2) → Square (level + 1)
| 0, square => ofQuad (square.block.tickCentre.map leaf)
| level + 1, square =>
    let inner := square.quadrants.map quadrants
    let step := fun window : Quad (Square (level + 1)) =>
      (ofQuad window).advance
    let sw := step inner.sw
    let s := step (Quad.acrossX inner.sw inner.se)
    let se := step inner.se
    let w := step (Quad.acrossY inner.sw inner.nw)
    let c := step (Quad.centre inner)
    let e := step (Quad.acrossY inner.se inner.ne)
    let nw := step inner.nw
    let n := step (Quad.acrossX inner.nw inner.ne)
    let ne := step inner.ne
    .node
      (step ⟨sw, s, w, c⟩)
      (step ⟨s, se, c, e⟩)
      (step ⟨w, c, nw, n⟩)
      (step ⟨c, e, n, ne⟩)

/- A square of walls does not change. -/
theorem advance_uniform_wall
    (level : Nat) :
    (uniform .wall (level + 2)).advance =
      uniform .wall (level + 1) := by
  induction level with
  | zero => rfl
  | succ level ih =>
      have hStep :
          (ofQuad (Quad.all
            (uniform .wall (level + 1)))).advance =
            uniform .wall (level + 1) :=
        ih
      simp only [Quad.all] at hStep
      simp only [advance, uniform, Quad.all, Quad.map,
        Quad.acrossX, Quad.acrossY, Quad.centre,
        quadrants_ofQuad] at hStep ⊢
      simp only [hStep]
      rfl

end Square

end LatticeGas

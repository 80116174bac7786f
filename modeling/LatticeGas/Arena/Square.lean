import LatticeGas.Arena.Basic

/-
  This file defines how the cells of a square are read from
  an arena.

  Key definitions include:
    * `Arena.lookup`
    * `Arena.cellAt`
-/

------------------------------------------------------------
-- Reading Squares
------------------------------------------------------------

namespace LatticeGas

namespace Arena

/-
  The cell at `(x, y)` of a square, found by descending into
  one quadrant per level. The quadrants are that deep.
-/
def lookup (arena : Arena) :
    (depth : Nat) → NodeId → (x y : Nat) → Except Fault Cell
| 0, id, _, _ => arena.value id
| depth + 1, id, x, y => do
    match ← arena.entry id with
    | .leaf cell => return cell
    | .node level children =>
        let half := sideOfLevel (level - 1)
        let quadrant := children.quadrant
          (decide (half ≤ x)) (decide (half ≤ y))
        arena.lookup depth quadrant
          (if half ≤ x then x - half else x)
          (if half ≤ y then y - half else y)

/- The cell at `(x, y)` of the square of a node. -/
def cellAt
    (arena : Arena)
    (id : NodeId)
    (x y : Nat) : Except Fault Cell := do
  let level ← arena.level id
  arena.lookup level id x y

end Arena

end LatticeGas

import LatticeGas.Arena.Basic

/-
  This file defines the macro step. From the square of a node
  of level `l` it makes the node of the middle square, one
  level below, as it is `2 ^ (l - 2)` ticks later. The steps
  of nine windows and of four windows of those are combined.

  Key definitions include:
    * `Building.advanceBlock`
    * `Building.advanceWindows`
    * `Building.advanceStep`
    * `Building.advanceWithin`
    * `Building.nestingBound`
    * `Building.advanceCenter`
-/

------------------------------------------------------------
-- Blocks of Sixteen Cells
------------------------------------------------------------

namespace LatticeGas

namespace Building

/- The cells of a square of level two. -/
def blockCells
    (id : NodeId) : Building (Quad (Quad Cell)) :=
  ask fun arena => do
    let leaves ← arena.grandchildren id
    leaves.mapM fun quadrant => quadrant.mapM arena.value

/- The middle of a square of level two, one tick later. -/
def advanceBlock (id : NodeId) : Building NodeId := do
  let block ← blockCells id
  let leaves ← block.tickCentre.mapM leaf
  node leaves

end Building

end LatticeGas

------------------------------------------------------------
-- Larger Squares
------------------------------------------------------------

namespace LatticeGas

namespace Building

/- Compose a window, and advance it at once. -/
def advanceWindow
    (advance : NodeId → Building NodeId)
    (window : Quad NodeId) : Building NodeId := do
  let id ← node window
  advance id

/-
  The middle of a larger square. Nine windows, three along
  each axis, are advanced by half of the ticks, and so are
  the four windows that their outcomes make up. The windows
  at the corners are the quadrants themselves.
-/
def advanceWindows
    (advance : NodeId → Building NodeId)
    (id : NodeId) : Building NodeId := do
  let corner ← ask fun arena => arena.children id
  let inner ← ask fun arena => arena.grandchildren id
  let composed := advanceWindow advance
  let sw ← advance corner.sw
  let s ← composed (Quad.acrossX inner.sw inner.se)
  let se ← advance corner.se
  let w ← composed (Quad.acrossY inner.sw inner.nw)
  let c ← composed (Quad.centre inner)
  let e ← composed (Quad.acrossY inner.se inner.ne)
  let nw ← advance corner.nw
  let n ← composed (Quad.acrossX inner.nw inner.ne)
  let ne ← advance corner.ne
  let southWest ← composed ⟨sw, s, w, c⟩
  let southEast ← composed ⟨s, se, c, e⟩
  let northWest ← composed ⟨w, c, nw, n⟩
  let northEast ← composed ⟨c, e, n, ne⟩
  node ⟨southWest, southEast, northWest, northEast⟩

end Building

end LatticeGas

------------------------------------------------------------
-- The Macro Step
------------------------------------------------------------

namespace LatticeGas

namespace Building

/-
  The step of a node: the remembered one, or else one that is
  computed and remembered. Windows are advanced as given.
-/
def advanceStep
    (advance : NodeId → Building NodeId)
    (id : NodeId) : Building NodeId := do
  let level ← ask fun arena => arena.level id
  require (2 ≤ level) (.belowStep level)
  match ← ask fun arena => arena.cachedNext id with
  | some next => return next
  | none =>
      let next ←
        if level = 2 then
          advanceBlock id
        else
          advanceWindows advance id
      storeNext id next
      return next

/- The step of a node, with steps nested at most so deep. -/
def advanceWithin :
    (depth : Nat) → NodeId → Building NodeId
| 0 => advanceStep fun _ => throw Fault.endlessStep
| depth + 1 => advanceStep (advanceWithin depth)

/-
  How deep steps can be nested. A step that leads back to its
  own node never ends. So in a run that ends, the steps under
  way at one moment are those of different nodes, and numbers
  of nodes have 32 bits. Without remembered steps that lead
  up again, the nesting is no deeper than the level.
-/
def nestingBound : Nat :=
  nodeLimit

/- The step of a node. -/
def advanceCenter (id : NodeId) : Building NodeId :=
  advanceWithin nestingBound id

end Building

end LatticeGas

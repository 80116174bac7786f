import LatticeGas.Fault
import LatticeGas.Quad
import Std.Data.HashMap

/-
  This file defines the arena in which the squares of
  quad-trees are kept. A square is named by the number of its
  node, and nodes never change once they are there. An arena
  may share equal nodes, and it may remember the steps of its
  nodes.

  Key definitions include:
    * `Entry`
    * `Arena`
    * `Arena.new`
    * `Arena.entry`
    * `Arena.level`
    * `Arena.children`
    * `Arena.value`
    * `Arena.cachedNext`
    * `Arena.append`
    * `Arena.push`
    * `Building`
    * `Building.leaf`
    * `Building.node`
    * `Building.wall`
    * `Building.storeNext`
-/

------------------------------------------------------------
-- Arenas
------------------------------------------------------------

namespace LatticeGas

/-
  The number of a node, counted from zero. It has 32 bits: no
  node is added once the numbers are used up.
-/
abbrev NodeId :=
  Nat

/-
  A node is a leaf with one cell, or it has a level and four
  quadrants that lie one level below it.
-/
inductive Entry where
  | leaf (cell : Cell)
  | node (level : Nat) (children : Quad NodeId)
  deriving DecidableEq, Hashable

/- A square of level `l` has a side of `2 ^ l` cells. -/
def Entry.level : Entry → Nat
| .leaf _ => 0
| .node level _ => level

/-
  An arena holds its nodes, and the remembered step of each
  node. The index finds the number of an entry if equal nodes
  are shared. The walls are the squares without gas that were
  asked for, by level.
-/
structure Arena where
  entries : Array Entry
  steps : Array (Option NodeId)
  index : Std.HashMap Entry NodeId
  walls : Array NodeId
  interning : Bool
  memoizing : Bool

namespace Arena

/- The arena without nodes. -/
def new (interning memoizing : Bool) : Arena :=
  { entries := #[]
    steps := #[]
    index := ∅
    walls := #[]
    interning := interning
    memoizing := memoizing }

instance : Inhabited Arena :=
  ⟨new false false⟩

/- The number of nodes. -/
def size (arena : Arena) : Nat :=
  arena.entries.size

def isEmpty (arena : Arena) : Bool :=
  arena.entries.isEmpty

end Arena

end LatticeGas

------------------------------------------------------------
-- Reading Nodes
------------------------------------------------------------

namespace LatticeGas

namespace Arena

/- What a node is. -/
def entry
    (arena : Arena)
    (id : NodeId) : Except Fault Entry :=
  match arena.entries[id]? with
  | some entry => .ok entry
  | none => .error (.unknownNode arena.size id)

/- The level of a node. -/
def level
    (arena : Arena)
    (id : NodeId) : Except Fault Nat := do
  let entry ← arena.entry id
  return entry.level

/- The quadrants of a node, which must not be a leaf. -/
def children
    (arena : Arena)
    (id : NodeId) : Except Fault (Quad NodeId) := do
  match ← arena.entry id with
  | .leaf _ => throw (.childlessLeaf id)
  | .node _ children => return children

/- The cell of a leaf. -/
def value
    (arena : Arena)
    (id : NodeId) : Except Fault Cell := do
  match ← arena.entry id with
  | .leaf cell => return cell
  | .node _ _ => throw (.notLeaf id)

/- The quadrants of the quadrants of a node. -/
def grandchildren
    (arena : Arena)
    (id : NodeId) : Except Fault (Quad (Quad NodeId)) := do
  let children ← arena.children id
  children.mapM arena.children

/-
  The remembered step of a node. An arena that does not
  remember steps has none.
-/
def cachedNext
    (arena : Arena)
    (id : NodeId) : Except Fault (Option NodeId) :=
  if arena.memoizing then
    match arena.steps[id]? with
    | some next => .ok next
    | none => .error (.unknownNode arena.steps.size id)
  else
    .ok none

/-
  The level of the node above four quadrants. They must share
  one level, and the node must not be too deep.
-/
def parentLevel
    (arena : Arena)
    (children : Quad NodeId) : Except Fault Nat := do
  let level ← arena.level children.sw
  let east ← arena.level children.se
  require (east = level) .mixedLevels
  let north ← arena.level children.nw
  require (north = level) .mixedLevels
  let corner ← arena.level children.ne
  require (corner = level) .mixedLevels
  require (level < maxLevel) .tooDeep
  return level + 1

end Arena

end LatticeGas

------------------------------------------------------------
-- Adding Nodes
------------------------------------------------------------

namespace LatticeGas

namespace Arena

/- The arena with a node behind all others. -/
def extended
    (arena : Arena)
    (entry : Entry) : Arena :=
  match arena with
  | ⟨entries, steps, index, walls, interning, memoizing⟩ =>
      let id := entries.size
      { entries := entries.push entry
        steps := steps.push none
        index :=
          if interning then index.insert entry id else index
        walls := walls
        interning := interning
        memoizing := memoizing }

/- Add a node, as long as there is a number for it. -/
def append
    (arena : Arena)
    (entry : Entry) : Except Fault (NodeId × Arena) := do
  require (arena.size < nodeLimit) .exhausted
  return (arena.size, arena.extended entry)

/-
  The number of a node with the given entry. If equal nodes
  are shared, a node that is there already is found.
-/
def push
    (arena : Arena)
    (entry : Entry) : Except Fault (NodeId × Arena) :=
  if arena.interning then
    match arena.index[entry]? with
    | some id => .ok (id, arena)
    | none => arena.append entry
  else
    arena.append entry

/- Remember the square without gas of the next level. -/
def pushWall
    (arena : Arena)
    (id : NodeId) : Arena :=
  { arena with walls := arena.walls.push id }

/- Remember the step of a node. -/
def setNext
    (arena : Arena)
    (id next : NodeId) : Arena :=
  { arena with
    steps := arena.steps.setIfInBounds id (some next) }

end Arena

end LatticeGas

------------------------------------------------------------
-- Building
------------------------------------------------------------

namespace LatticeGas

/-
  A computation that may add nodes to an arena, and that may
  end in a fault.
-/
abbrev Building :=
  StateT Arena (Except Fault)

namespace Building

/- Ask the arena without changing it. -/
def ask
    {A : Type}
    (question : Arena → Except Fault A) : Building A :=
  fun arena => do
    let answer ← question arena
    return (answer, arena)

/- The node of one cell. -/
def leaf (cell : Cell) : Building NodeId :=
  fun arena => arena.push (.leaf cell)

/- The node with the given quadrants. -/
def node (children : Quad NodeId) : Building NodeId :=
  fun arena => do
    let level ← arena.parentLevel children
    arena.push (.node level children)

/- Take a node as the square without gas of the next level. -/
def keepWall (id : NodeId) : Building NodeId :=
  fun arena => .ok (id, arena.pushWall id)

/-
  The remembered square without gas of a level, or else one
  that is built now and remembered.
-/
def wallOr
    (level : Nat)
    (build : Building NodeId) : Building NodeId :=
  fun arena =>
    match arena.walls[level]? with
    | some id => .ok (id, arena)
    | none => (build >>= keepWall) arena

/- The square without gas of a level, built from below. -/
def wallUpTo : Nat → Building NodeId
| 0 => wallOr 0 (leaf .wall)
| level + 1 =>
    wallOr (level + 1) do
      let quadrant ← wallUpTo level
      node (Quad.all quadrant)

/-
  The square without gas of a level. There is none past the
  highest level, as the node above its wall is too deep.
-/
def wall (level : Nat) : Building NodeId :=
  wallUpTo (min level (maxLevel + 1))

theorem wall_of_le
    {level : Nat}
    (hMax : level ≤ maxLevel) :
    wall level = wallUpTo level := by
  unfold wall
  rw [Nat.min_eq_left (Nat.le_succ_of_le hMax)]

/- Remember the step of a node, if the arena does so. -/
def storeNext
    (id next : NodeId) : Building Unit :=
  fun arena =>
    if arena.memoizing then
      if id < arena.steps.size then
        .ok ((), arena.setNext id next)
      else
        .error (.unknownNode arena.steps.size id)
    else
      .ok ((), arena)

end Building

end LatticeGas

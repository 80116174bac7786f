import LatticeGas.Arena.Basic

/-
  This file defines how the square of a node is copied from
  one arena into another one.

  Key definitions include:
    * `Copying`
    * `Copying.copy`
    * `Building.copyTree`
-/

------------------------------------------------------------
-- Copying
------------------------------------------------------------

namespace LatticeGas

/-
  A computation that adds nodes to the target of a copy, and
  that knows the copies which were made so far.
-/
abbrev Copying :=
  StateT (Std.HashMap NodeId NodeId) Building

namespace Copying

/- The copy that was made of a node before. -/
def known? (id : NodeId) : Copying (Option NodeId) :=
  fun copies => pure (copies[id]?, copies)

/- Know the copy of a node from now on. -/
def learn (id copy : NodeId) : Copying Unit :=
  fun copies => pure ((), copies.insert id copy)

/-
  Copy one node of the source, if it has no copy yet. Its
  quadrants are copied before it and in order.
-/
def copyStep
    (source : Arena)
    (copyQuadrant : NodeId → Copying NodeId)
    (id : NodeId) : Copying NodeId := do
  match ← known? id with
  | some copy => return copy
  | none =>
      let copy ←
        match ← source.entry id with
        | .leaf cell => Building.leaf cell
        | .node _ children => do
            let copies ← children.mapM copyQuadrant
            Building.node copies
      learn id copy
      return copy

/- Copy the square of a node that is at most that deep. -/
def copy
    (source : Arena) :
    (depth : Nat) → NodeId → Copying NodeId
| 0 => copyStep source fun _ => throw Fault.tooDeep
| depth + 1 => copyStep source (copy source depth)

end Copying

/-
  Copy the square of a node from another arena. Nodes that
  are shared there are copied once.
-/
def Building.copyTree
    (source : Arena)
    (root : NodeId) : Building NodeId := do
  let depth ← source.level root
  let (copy, _) ← (Copying.copy source depth root).run ∅
  return copy

end LatticeGas

import LatticeGas.Rule

/-
  This file defines the four quadrants of a square, and the
  windows that straddle quadrants.

  Key definitions include:
    * `Quad`
    * `Quad.map`
    * `Quad.mapM`
    * `Quad.quadrant`
    * `Quad.acrossX`
    * `Quad.acrossY`
    * `Quad.centre`
    * `Quad.tickCentre`
-/

------------------------------------------------------------
-- Quadrants
------------------------------------------------------------

namespace LatticeGas

/-
  Four equal quadrants of a square. South is the lower half
  of the second axis, west the lower half of the first.
-/
structure Quad (A : Type) where
  sw : A
  se : A
  nw : A
  ne : A
  deriving DecidableEq, Hashable

namespace Quad

variable {A B : Type}

/- The same thing in every quadrant. -/
def all (value : A) : Quad A :=
  ⟨value, value, value, value⟩

/- The quadrants in order, west before east and south first. -/
def toList (quad : Quad A) : List A :=
  [quad.sw, quad.se, quad.nw, quad.ne]

/- Change every quadrant in the same way. -/
def map
    (change : A → B)
    (quad : Quad A) : Quad B :=
  ⟨change quad.sw, change quad.se,
    change quad.nw, change quad.ne⟩

/- Act on the quadrants in order. -/
def mapM
    {M : Type → Type}
    [Monad M]
    (action : A → M B)
    (quad : Quad A) : M (Quad B) := do
  let sw ← action quad.sw
  let se ← action quad.se
  let nw ← action quad.nw
  let ne ← action quad.ne
  return ⟨sw, se, nw, ne⟩

/- The quadrant that is named by a half of either axis. -/
def quadrant
    (quad : Quad A)
    (east north : Bool) : A :=
  match east, north with
  | false, false => quad.sw
  | true, false => quad.se
  | false, true => quad.nw
  | true, true => quad.ne

@[simp] theorem quadrant_all
    (value : A)
    (east north : Bool) :
    (all value).quadrant east north = value := by
  cases east <;> cases north <;> rfl

/- What holds in every quadrant holds in each of the four. -/
theorem forall_mem_toList
    {P : A → Prop}
    {quad : Quad A} :
    (∀ part ∈ quad.toList, P part) ↔
      P quad.sw ∧ P quad.se ∧ P quad.nw ∧ P quad.ne := by
  simp [toList]

end Quad

end LatticeGas

------------------------------------------------------------
-- Windows
------------------------------------------------------------

namespace LatticeGas

namespace Quad

variable {A : Type}

/- The window between a square and the one to its east. -/
def acrossX (west east : Quad A) : Quad A :=
  { sw := west.se
    se := east.sw
    nw := west.ne
    ne := east.nw }

/- The window between a square and the one to its north. -/
def acrossY (south north : Quad A) : Quad A :=
  { sw := south.nw
    se := south.ne
    nw := north.sw
    ne := north.se }

/- The window in the middle of a square. -/
def centre (quad : Quad (Quad A)) : Quad A :=
  { sw := quad.sw.ne
    se := quad.se.nw
    nw := quad.nw.se
    ne := quad.ne.sw }

/- The four middle cells of a block, one tick later. -/
def tickCentre (block : Quad (Quad Cell)) : Quad Cell :=
  { sw := Cell.tick block.sw.nw block.se.nw
      block.sw.se block.nw.se block.sw.ne
    se := Cell.tick block.sw.ne block.se.ne
      block.se.sw block.ne.sw block.se.nw
    nw := Cell.tick block.nw.sw block.ne.sw
      block.sw.ne block.nw.ne block.nw.se
    ne := Cell.tick block.nw.se block.ne.se
      block.se.nw block.ne.nw block.ne.sw }

end Quad

end LatticeGas

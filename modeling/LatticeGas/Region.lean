import LatticeGas.Level

/-
  This file defines where a region of interest lies in a
  square of some level, and when one macro step covers it.

  Key definitions include:
    * `Region`
    * `Region.Fits`
    * `Region.Central`
    * `Region.quarter`
    * `Region.shift`
    * `Region.crop`
-/

------------------------------------------------------------
-- Regions
------------------------------------------------------------

namespace LatticeGas

/- A rectangle, by its lower corner and its extent. -/
structure Region where
  originX : Nat
  originY : Nat
  width : Nat
  height : Nat
  deriving DecidableEq

namespace Region

/- The region lies in a square of the level. -/
def Fits
    (region : Region)
    (level : Nat) : Prop :=
  region.originX + region.width ≤ sideOfLevel level ∧
    region.originY + region.height ≤ sideOfLevel level

instance
    (region : Region)
    (level : Nat) :
    Decidable (region.Fits level) := by
  unfold Fits
  infer_instance

/- A quarter of the side of a square of the level. -/
def quarter (level : Nat) : Nat :=
  sideOfLevel (level - 2)

/-
  The region lies in the middle half of a square of the
  level, which is what a macro step of that square yields.
-/
def Central
    (region : Region)
    (level : Nat) : Prop :=
  2 ≤ level ∧
    quarter level ≤ region.originX ∧
    quarter level ≤ region.originY ∧
    region.originX + region.width ≤ 3 * quarter level ∧
    region.originY + region.height ≤ 3 * quarter level

instance
    (region : Region)
    (level : Nat) :
    Decidable (region.Central level) := by
  unfold Central
  infer_instance

/- The square grows by so much below the region. -/
def shift
    (region : Region)
    (amount : Nat) : Region :=
  { region with
    originX := region.originX + amount
    originY := region.originY + amount }

/- The square shrinks by so much below the region. -/
def crop
    (region : Region)
    (amount : Nat) : Region :=
  { region with
    originX := region.originX - amount
    originY := region.originY - amount }

end Region

end LatticeGas

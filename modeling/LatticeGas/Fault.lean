import LatticeGas.Level
import LatticeGas.Limits

/-
  This file defines what can go wrong in the library and the
  text that each cause is reported with. Inputs that cannot
  be turned into a lattice are refused. Calls that break the
  contract of an operation are faults, and so are those for
  which numbers or memory do not suffice.

  Key definitions include:
    * `LatticeError`
    * `LatticeError.message`
    * `LatticeError.label`
    * `Fault`
    * `Fault.message`
    * `Fault.Shortage`
    * `require`
    * `addCount`
    * `Failure`
-/

------------------------------------------------------------
-- Refused Inputs
------------------------------------------------------------

namespace LatticeGas

/- The reasons for which an input is no lattice. -/
inductive LatticeError where
  | emptyLattice
  | raggedRows (row expected found : Nat)
  | invalidCell (raw : Int)
  | levelTooLarge (size level max : Nat)
  deriving DecidableEq

namespace LatticeError

/- The sentence that explains a refusal. -/
def message : LatticeError → String
| .emptyLattice =>
    "lattice must contain at least one cell"
| .raggedRows row expected found =>
    s!"row {row} has {found} cells, expected {expected}"
| .invalidCell raw =>
    s!"invalid cell value {raw} " ++
      "(expected -1 for a wall or 0..=15)"
| .levelTooLarge size level max =>
    s!"lattice of side {size} needs level {level}, " ++
      s!"which exceeds the maximum of {max}"

/- The short form of a refusal, its name and its data. -/
def label : LatticeError → String
| .emptyLattice =>
    "EmptyLattice"
| .raggedRows row expected found =>
    s!"RaggedRows \x7b row: {row}, expected: {expected}, " ++
      s!"found: {found} \x7d"
| .invalidCell raw =>
    s!"InvalidCell({raw})"
| .levelTooLarge size level max =>
    s!"LevelTooLarge \x7b size: {size}, level: {level}, " ++
      s!"max: {max} \x7d"

end LatticeError

end LatticeGas

------------------------------------------------------------
-- Faults
------------------------------------------------------------

namespace LatticeGas

/-
  The ways in which an operation can stop. Most of them tell
  that a call broke the contract of the operation. The last
  ones tell that the machine has too little of something.
-/
inductive Fault where
  | flowTooWide
  | outsideLattice (x y side : Nat)
  | outsideRegion (x y width height : Nat)
  | emptyBlock
  | mixedLevels
  | tooDeep
  | unknownNode (count id : Nat)
  | childlessLeaf (id : Nat)
  | notLeaf (id : Nat)
  | belowStep (level : Nat)
  | regionEscaped (x y width height level : Nat)
  | endlessStep
  | exhausted
  | sumOverflow
  | productOverflow
  | capacityOverflow
  | noWorkers (reason : String)
  deriving DecidableEq

namespace Fault

/- The sentence that explains a fault. -/
def message : Fault → String
| .flowTooWide =>
    "flow field has only four bits"
| .outsideLattice x y side =>
    s!"({x},{y}) outside {side}x{side} lattice"
| .outsideRegion x y width height =>
    s!"({x},{y}) outside the {width}x{height} region"
| .emptyBlock =>
    "block size must be positive"
| .mixedLevels =>
    "children must share one level"
| .tooDeep =>
    s!"quad-tree deeper than level {maxLevel}"
| .unknownNode count id =>
    s!"index out of bounds: the len is {count} " ++
      s!"but the index is {id}"
| .childlessLeaf id =>
    s!"leaf NodeId({id}) has no children"
| .notLeaf id =>
    s!"node NodeId({id}) is not a leaf"
| .belowStep level =>
    s!"advance_center needs level >= 2, got {level}"
| .regionEscaped x y width height level =>
    s!"region ({x}, {y}) {width}x{height} " ++
      s!"escaped a level {level} snapshot"
| .endlessStep =>
    "the step of this node asks for itself"
| .exhausted =>
    "node arena exhausted the u32 id space: " ++
      "TryFromIntError(())"
| .sumOverflow =>
    "attempt to add with overflow"
| .productOverflow =>
    "attempt to multiply with overflow"
| .capacityOverflow =>
    "capacity overflow"
| .noWorkers reason =>
    s!"failed to build lattice rayon thread pool: {reason}"

end Fault

/- Stop with the given fault unless the condition holds. -/
def require
    (condition : Prop)
    [Decidable condition]
    (fault : Fault) : Except Fault Unit :=
  if condition then .ok () else .error fault

@[simp] theorem require_eq_ok_iff
    (condition : Prop)
    [Decidable condition]
    (fault : Fault) :
    require condition fault = .ok () ↔ condition := by
  by_cases hCondition : condition
  · simp [require, hCondition]
  · simp [require, hCondition]

/- Add to a count, as long as the sum is a count. -/
def addCount
    (count amount : Nat) : Except Fault Nat := do
  require (count + amount < countLimit) .sumOverflow
  return count + amount

end LatticeGas

------------------------------------------------------------
-- Failed Constructions
------------------------------------------------------------

namespace LatticeGas

/-
  A construction from a caller's lattice fails because the
  lattice is refused, or because reading it is a fault.
-/
inductive Failure where
  | refused (error : LatticeError)
  | broken (fault : Fault)
  deriving DecidableEq

namespace Failure

/- The sentence that explains a failure. -/
def message : Failure → String
| .refused error => error.message
| .broken fault => fault.message

end Failure

end LatticeGas

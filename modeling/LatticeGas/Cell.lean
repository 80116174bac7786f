import LatticeGas.Fault
import LatticeGas.Flow

/-
  This file defines the sites of the lattice, their integer
  code, and the characters and words that show them.

  Key definitions include:
    * `Cell`
    * `Cell.has`
    * `Cell.hasAny`
    * `Cell.bits`
    * `Cell.particleCount`
    * `Cell.ofBits?`
    * `Cell.ofRaw?`
    * `Cell.toRaw`
    * `Cell.rowsOfRaw?`
    * `Cell.label`
-/

------------------------------------------------------------
-- Cells
------------------------------------------------------------

namespace LatticeGas

/- A site is a wall, or it holds a flow. -/
inductive Cell where
  | wall
  | gas (flow : Flow)
  deriving DecidableEq, Hashable

namespace Cell

/- The site without a wall and without particles. -/
def empty : Cell :=
  .gas Flow.empty

instance : Inhabited Cell :=
  ⟨empty⟩

/- A site that holds one particle. -/
def lone (d : Direction) : Cell :=
  .gas (Flow.ofFn fun other => other = d)

/- A site with a head-on pair along the first axis. -/
def headOnX : Cell :=
  .gas Flow.headOnX

/- A site with a head-on pair along the second axis. -/
def headOnY : Cell :=
  .gas Flow.headOnY

def isWall : Cell → Bool
| .wall => true
| .gas _ => false

/- Whether a particle at the site moves along `d`. -/
def has : Cell → Direction → Bool
| .wall, _ => false
| .gas flow, d => flow.has d

/- The particles of the site as a bit field. -/
def bits : Cell → Nat
| .wall => 0
| .gas flow => flow.bits

/- Whether the site holds a particle of the bit mask. -/
def hasAny
    (cell : Cell)
    (mask : Nat) : Bool :=
  cell.bits &&& mask != 0

/- The number of particles at the site. -/
def particleCount : Cell → Nat
| .wall => 0
| .gas flow => flow.particleCount

end Cell

end LatticeGas

------------------------------------------------------------
-- Integer Codes
------------------------------------------------------------

namespace LatticeGas

namespace Cell

/- The cell of a bit field, which has only four bits. -/
def ofBits? (field : Nat) : Except Fault Cell :=
  if field < 16 then
    .ok (.gas (Flow.ofBits field))
  else
    .error .flowTooWide

/- Read the code of a cell: a bit field, or `-1` for a wall. -/
def ofRaw? : Int → Except LatticeError Cell
| .ofNat field =>
    if field < 16 then
      .ok (.gas (Flow.ofBits field))
    else
      .error (.invalidCell field)
| .negSucc 0 => .ok .wall
| .negSucc (n + 1) => .error (.invalidCell (.negSucc (n + 1)))

/- The code of a cell. -/
def toRaw : Cell → Int
| .wall => -1
| .gas flow => flow.bits

/- Writing a cell and reading the code gives the cell back. -/
@[simp] theorem ofRaw?_toRaw
    (cell : Cell) :
    ofRaw? cell.toRaw = .ok cell := by
  cases cell with
  | wall => rfl
  | gas flow =>
      have hBits : flow.bits < 16 := flow.bits_lt
      simp [toRaw, ofRaw?, hBits]

/- An accepted code is the code of the cell that was read. -/
theorem toRaw_of_ofRaw?
    {raw : Int}
    {cell : Cell}
    (hCell : ofRaw? raw = .ok cell) :
    cell.toRaw = raw := by
  match raw with
  | .ofNat field =>
      by_cases hField : field < 16
      · have hRead : Cell.gas (Flow.ofBits field) = cell := by
          simpa [ofRaw?, hField] using hCell
        subst hRead
        simp [toRaw, Flow.bits_ofBits hField]
      · simp [ofRaw?, hField] at hCell
  | .negSucc 0 =>
      have hRead : Cell.wall = cell := by
        simpa [ofRaw?] using hCell
      subst hRead
      rfl
  | .negSucc (n + 1) =>
      simp [ofRaw?] at hCell

/-
  Read rows of codes. The first code that is no cell, row by
  row, is the reason for which all are refused.
-/
def rowsOfRaw?
    (rows : List (List Int)) :
    Except LatticeError (List (List Cell)) :=
  rows.mapM fun row => row.mapM ofRaw?

end Cell

end LatticeGas

------------------------------------------------------------
-- Text
------------------------------------------------------------

namespace LatticeGas

namespace Cell

/- The digit that shows whether a particle is present. -/
def binaryDigit (present : Bool) : Char :=
  if present then '1' else '0'

/- The cell in words, with the bits of its flow. -/
def label : Cell → String
| .wall => "Cell(WALL)"
| .gas flow =>
    let digits := String.ofList
      ([flow.yPos, flow.yNeg, flow.xPos, flow.xNeg].map
        binaryDigit)
    s!"Cell(0b{digits})"

end Cell

end LatticeGas

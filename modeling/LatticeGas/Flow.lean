/-
  This file defines the particles that may be present at one
  site of the gas: at most one per direction of motion.

  Key definitions include:
    * `Direction`
    * `Direction.opposite`
    * `Flow`
    * `Flow.has`
    * `Flow.ofFn`
    * `Flow.collide`
    * `Flow.bits`
    * `Flow.ofBits`
    * `Flow.collideBits`
    * `Flow.particleCount`
-/

------------------------------------------------------------
-- Directions
------------------------------------------------------------

namespace LatticeGas

/- The four directions in which a particle can move. -/
inductive Direction where
  | xNeg
  | xPos
  | yNeg
  | yPos
  deriving DecidableEq

namespace Direction

/- The direction of a particle that has bounced back. -/
def opposite : Direction → Direction
| .xNeg => .xPos
| .xPos => .xNeg
| .yNeg => .yPos
| .yPos => .yNeg

@[simp] theorem opposite_opposite
    (d : Direction) :
    d.opposite.opposite = d := by
  cases d <;> rfl

/- The place of a direction in a field of four bits. -/
def index : Direction → Nat
| .xNeg => 0
| .xPos => 1
| .yNeg => 2
| .yPos => 3

/- The bit of a direction in a field of four bits. -/
def bit : Direction → Nat
| .xNeg => 1
| .xPos => 2
| .yNeg => 4
| .yPos => 8

end Direction

end LatticeGas

------------------------------------------------------------
-- Flows
------------------------------------------------------------

namespace LatticeGas

/- The particles of one site, by direction of motion. -/
structure Flow where
  xNeg : Bool := false
  xPos : Bool := false
  yNeg : Bool := false
  yPos : Bool := false
  deriving DecidableEq, Hashable

namespace Flow

/- Whether the site holds a particle that moves along `d`. -/
def has (flow : Flow) : Direction → Bool
| .xNeg => flow.xNeg
| .xPos => flow.xPos
| .yNeg => flow.yNeg
| .yPos => flow.yPos

/- The flow that holds the given directions. -/
def ofFn (present : Direction → Bool) : Flow :=
  ⟨present .xNeg, present .xPos,
    present .yNeg, present .yPos⟩

@[simp] theorem has_ofFn
    (present : Direction → Bool)
    (d : Direction) :
    (ofFn present).has d = present d := by
  cases d <;> rfl

@[simp] theorem ofFn_has
    (flow : Flow) :
    ofFn flow.has = flow :=
  rfl

/- A flow is determined by its particles. -/
theorem eq_of_has_eq
    {left right : Flow}
    (hHas : ∀ d, left.has d = right.has d) :
    left = right := by
  have hFn : left.has = right.has := funext hHas
  rw [← ofFn_has left, ← ofFn_has right, hFn]

/- The site without particles. -/
def empty : Flow :=
  {}

/- A head-on pair along the first axis. -/
def headOnX : Flow :=
  { xNeg := true, xPos := true }

/- A head-on pair along the second axis. -/
def headOnY : Flow :=
  { yNeg := true, yPos := true }

/-
  A head-on pair that is alone at its site leaves it along
  the other axis. Everything else passes through.
-/
def collide (flow : Flow) : Flow :=
  if flow = headOnX then headOnY
  else if flow = headOnY then headOnX
  else flow

/- The number of particles of a site. -/
def particleCount (flow : Flow) : Nat :=
  flow.xNeg.toNat + flow.xPos.toNat +
    flow.yNeg.toNat + flow.yPos.toNat

/- A collision neither creates nor destroys particles. -/
@[simp] theorem particleCount_collide
    (flow : Flow) :
    flow.collide.particleCount = flow.particleCount := by
  rcases flow with ⟨a, b, c, d⟩
  cases a <;> cases b <;> cases c <;> cases d <;> rfl

/- Two collisions in a row cancel. -/
@[simp] theorem collide_collide
    (flow : Flow) :
    flow.collide.collide = flow := by
  rcases flow with ⟨a, b, c, d⟩
  cases a <;> cases b <;> cases c <;> cases d <;> rfl

end Flow

end LatticeGas

------------------------------------------------------------
-- Flows as Bit Fields
------------------------------------------------------------

namespace LatticeGas

namespace Flow

/- The flow as a field of four bits. -/
def bits (flow : Flow) : Nat :=
  flow.xNeg.toNat + 2 * flow.xPos.toNat +
    4 * flow.yNeg.toNat + 8 * flow.yPos.toNat

/- The flow that is held by the low four bits of a number. -/
def ofBits (field : Nat) : Flow :=
  ofFn fun d => field.testBit d.index

/- Collision of a flow that is given as a bit field. -/
def collideBits (field : Nat) : Nat :=
  if field = headOnX.bits then headOnY.bits
  else if field = headOnY.bits then headOnX.bits
  else field

@[simp] theorem ofBits_bits
    (flow : Flow) :
    ofBits flow.bits = flow := by
  rcases flow with ⟨a, b, c, d⟩
  cases a <;> cases b <;> cases c <;> cases d <;> rfl

theorem bits_lt
    (flow : Flow) :
    flow.bits < 16 := by
  rcases flow with ⟨a, b, c, d⟩
  cases a <;> cases b <;> cases c <;> cases d <;> decide

theorem bits_ofBits
    {field : Nat}
    (hField : field < 16) :
    (ofBits field).bits = field := by
  have hAll : ∀ small : Fin 16,
      (ofBits small.val).bits = small.val := by
    decide
  exact hAll ⟨field, hField⟩

end Flow

end LatticeGas

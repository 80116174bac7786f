import LatticeGas.Lattice
import LatticeGas.Proofs.Barring
import LatticeGas.Proofs.Grid.Ticks
import LatticeGas.Proofs.Plane.Conservation

/-
  This file shows that what is measured on a lattice is what
  there is in the plane in which the lattice is seen: sums
  over its cells are sums over the sites of the plane. A sum
  that is counted in steps overflows only if all of it does.

  Key definitions include:
    * `Lattice.Accumulates`
    * `Lattice.SeenIn`
    * `Lattice.walls`

  Key theorems include:
    * `Lattice.accumulates_addCount`
    * `Lattice.Accumulates.foldFrom_eq`
    * `Lattice.SeenIn.foldBlock_eq`
    * `Lattice.SeenIn.particleCount_eq`
    * `Lattice.SeenIn.walls_eq`
-/

------------------------------------------------------------
-- Sums by Folds
------------------------------------------------------------

namespace LatticeGas

namespace Lattice

open Finset

variable {M : Type}
variable [AddCommMonoid M]

/-
  Amounts are added to a total one after another with the same
  outcome as all at once, be it a fault. The totals that come
  about are valid ones.
-/
structure Accumulates
    (valid : M → Prop)
    (add : M → M → Except Fault M) : Prop where
  add_zero : ∀ total, valid total → add total 0 = .ok total
  add_add :
    ∀ total first second,
      (add total first >>= fun next => add next second) =
        add total (first + second)
  valid_of_add :
    ∀ {total amount next},
      add total amount = .ok next → valid next

/- Every total is valid where nothing is limited. -/
theorem accumulates_ok :
    Accumulates (fun _ : M => True)
      (fun total amount => .ok (total + amount)) where
  add_zero total _ := by rw [add_zero]
  add_add total first second := by
    simp only [bind, Except.bind, add_assoc]
  valid_of_add _ := trivial

/- A count that has overflowed would not become smaller. -/
theorem accumulates_addCount :
    Accumulates (· < countLimit) addCount where
  add_zero total hValid := by
    rw [addCount_eq, Nat.add_zero, if_pos hValid]
  add_add total first second := by
    rw [addCount_eq total first, addCount_eq, ← add_assoc]
    by_cases hFirst : total + first < countLimit
    · rw [if_pos hFirst]
      exact addCount_eq (total + first) second
    · rw [if_neg hFirst, if_neg (by omega)]
      rfl
  valid_of_add hAdd := by
    rw [addCount_eq] at hAdd
    split at hAdd
    · next hBelow =>
        cases hAdd
        exact hBelow
    · cases hAdd

variable {valid : M → Prop}
variable {add : M → M → Except Fault M}

/- A fold that adds an amount at each position adds a sum. -/
theorem Accumulates.foldFrom_eq
    (hAdd : Accumulates valid add)
    {step : M → Nat → Except Fault M}
    {amount : Nat → M}
    {start count : Nat}
    (hStep :
      ∀ (i : Nat) (total : M),
        start ≤ i → i < start + count → valid total →
          step total i = add total (amount i))
    {total : M}
    (hTotal : valid total) :
    foldFrom step start count total =
      add total (∑ i ∈ range count, amount (start + i)) := by
  induction count generalizing start total with
  | zero =>
      rw [foldFrom, range_zero, sum_empty,
        hAdd.add_zero total hTotal]
  | succ count ih =>
      have hRest :
          ∀ (i : Nat) (total : M),
            start + 1 ≤ i → i < start + 1 + count →
              valid total →
                step total i = add total (amount i) :=
        fun i total hLow hHigh =>
          hStep i total (by omega) (by omega)
      have hSum :
          ∑ i ∈ range (count + 1), amount (start + i) =
            amount start +
              ∑ i ∈ range count, amount (start + 1 + i) := by
        rw [sum_range_succ', add_comm]
        simp only [Nat.add_assoc, Nat.add_comm 1,
          Nat.add_zero]
      rw [foldFrom, hSum, ← hAdd.add_add,
        hStep start total (Nat.le_refl _) (by omega) hTotal]
      cases hFirst : add total (amount start) with
      | error fault => rfl
      | ok next =>
          exact ih hRest (hAdd.valid_of_add hFirst)

end Lattice

end LatticeGas

------------------------------------------------------------
-- Lattices Seen in a Plane
------------------------------------------------------------

namespace LatticeGas

namespace Lattice

open Finset

variable {L : Type}
variable [Lattice L]

/- Reading the lattice reads the plane from its origin on. -/
def SeenIn
    (lattice : L)
    (plane : Plane) : Prop :=
  ∀ x y : Nat,
    x < side lattice → y < side lattice →
      cellAt lattice x y = .ok (plane x y)

/- The sites of the lattice that are walls. -/
def walls (lattice : L) : Set (Nat × Nat) :=
  {site |
    site.1 < side lattice ∧ site.2 < side lattice ∧
      cellAt lattice site.1 site.2 = .ok .wall}

variable {lattice : L}
variable {plane : Plane}

/-
  A fold over the whole lattice that adds an amount for each
  cell adds the sum of these amounts over the plane.
-/
theorem SeenIn.foldBlock_eq
    (hSeen : SeenIn lattice plane)
    {M : Type}
    [AddCommMonoid M]
    {valid : M → Prop}
    {add : M → M → Except Fault M}
    (hAdd : Accumulates valid add)
    (amount : Cell → M)
    {initial : M}
    (hInitial : valid initial) :
    foldBlock lattice
        (fun total cell => add total (amount cell)) 0 0
        (side lattice) (side lattice) initial =
      add initial
        (∑ y ∈ range (side lattice),
          ∑ x ∈ range (side lattice),
            amount (plane x y)) := by
  have hRow :
      ∀ (y : Nat) (total : M),
        y < side lattice → valid total →
          foldFrom
              (fun total x => do
                let cell ← cellAt lattice x y
                add total (amount cell))
              0 (side lattice) total =
            add total (∑ x ∈ range (side lattice),
              amount (plane x y)) := by
    intro y total hy hTotal
    have hCell :
        ∀ (x : Nat) (total : M),
          0 ≤ x → x < 0 + side lattice → valid total →
            (do
              let cell ← cellAt lattice x y
              add total (amount cell)) =
              add total (amount (plane x y)) := by
      intro x total _ hx _
      rw [hSeen x y (by omega) hy]
      rfl
    rw [hAdd.foldFrom_eq hCell hTotal]
    simp only [Nat.zero_add]
  unfold foldBlock
  rw [hAdd.foldFrom_eq (fun y total _ hy =>
    hRow y total (by omega)) hInitial]
  simp only [Nat.zero_add]

/- The particles that are counted are those in the plane. -/
theorem SeenIn.particleCount_eq
    (hSeen : SeenIn lattice plane) :
    particleCount lattice =
      addCount 0 (plane.particlesIn (side lattice)) :=
  hSeen.foldBlock_eq accumulates_addCount
    Cell.particleCount (by decide)

/- The walls of a lattice are those of the plane. -/
theorem SeenIn.walls_eq
    (hSeen : SeenIn lattice plane) :
    walls lattice =
      {site |
        site.1 < side lattice ∧ site.2 < side lattice ∧
          plane site.1 site.2 = .wall} := by
  ext site
  constructor
  · intro hSite
    rcases hSite with ⟨hx, hy, hCell⟩
    rw [hSeen _ _ hx hy] at hCell
    exact ⟨hx, hy, Except.ok.inj hCell⟩
  · intro hSite
    rcases hSite with ⟨hx, hy, hCell⟩
    refine ⟨hx, hy, ?_⟩
    rw [hSeen _ _ hx hy, hCell]

end Lattice

namespace Grid

/- A grid is seen in the plane around it. -/
theorem seenIn_plane
    (grid : Grid) :
    Lattice.SeenIn grid grid.plane :=
  fun _ _ hx hy => cellAt_eq_plane grid hx hy

end Grid

end LatticeGas

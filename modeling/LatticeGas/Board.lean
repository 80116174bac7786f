import LatticeGas.Plane

/-
  This file defines square boards of cells, stored row after
  row, and the tasks that compute the rows of the next board.

  Key definitions include:
    * `Board`
    * `Board.read`
    * `Board.write`
    * `Board.ofRows`
    * `Board.ofRows?`
    * `Board.plane`
    * `Board.next`
    * `Board.stepRow`
    * `Board.stepRows`
-/

------------------------------------------------------------
-- Boards
------------------------------------------------------------

namespace LatticeGas

/- A board holds the cell of `(x, y)` at `y * side + x`. -/
structure Board (side : Nat) where
  cells : Vector Cell (side * side)

namespace Board

variable {side : Nat}

theorem position_lt
    {x y : Nat}
    (hInside : x < side ∧ y < side) :
    y * side + x < side * side := by
  have hRow : (y + 1) * side ≤ side * side :=
    Nat.mul_le_mul_right side hInside.2
  rw [Nat.succ_mul] at hRow
  omega

/- Two sites in range have one position only if equal. -/
theorem position_inj
    {x y x' y' : Nat}
    (hx : x < side)
    (hx' : x' < side)
    (hPosition : y * side + x = y' * side + x') :
    x = x' ∧ y = y' := by
  have hSide : 0 < side := by omega
  have hRow : y = y' := by
    have hDiv := congrArg (· / side) hPosition
    simpa [Nat.add_comm, Nat.add_mul_div_right _ _ hSide,
      Nat.div_eq_of_lt hx, Nat.div_eq_of_lt hx'] using hDiv
  subst hRow
  exact ⟨by omega, rfl⟩

/- The board whose cells are all the same. -/
def uniform (cell : Cell) : Board side :=
  ⟨Vector.replicate (side * side) cell⟩

/- The cell of a site. Outside the board there are walls. -/
def read
    (board : Board side)
    (x y : Nat) : Cell :=
  if hInside : x < side ∧ y < side then
    have hPosition := position_lt hInside
    board.cells[y * side + x]
  else
    .wall

/- Replace the cell of a site of the board. -/
def write
    (board : Board side)
    (x y : Nat)
    (cell : Cell) : Board side :=
  match board with
  | ⟨cells⟩ =>
      if hInside : x < side ∧ y < side then
        ⟨cells.set (y * side + x) cell
          (position_lt hInside)⟩
      else
        ⟨cells⟩

theorem read_uniform
    (cell : Cell)
    {x y : Nat}
    (hInside : x < side ∧ y < side) :
    (uniform cell : Board side).read x y = cell := by
  simp [read, uniform, hInside]

theorem read_outside
    (board : Board side)
    {x y : Nat}
    (hOutside : ¬ (x < side ∧ y < side)) :
    board.read x y = .wall := by
  simp only [read, dif_neg hOutside]

/- A site reads as what was last written to it. -/
theorem read_write
    (board : Board side)
    {x y : Nat}
    (cell : Cell)
    (hInside : x < side ∧ y < side)
    (x' y' : Nat) :
    (board.write x y cell).read x' y' =
      if x' = x ∧ y' = y then cell else board.read x' y' := by
  by_cases hInside' : x' < side ∧ y' < side
  · simp only [read, write, dif_pos hInside,
      dif_pos hInside', Vector.getElem_set]
    by_cases hSame : x' = x ∧ y' = y
    · rw [if_pos (by rw [hSame.1, hSame.2]), if_pos hSame]
    · have hPosition :
          ¬ y * side + x = y' * side + x' := by
        intro hPosition
        have hSite :=
          position_inj hInside.1 hInside'.1 hPosition
        exact hSame ⟨hSite.1.symm, hSite.2.symm⟩
      rw [if_neg hPosition, if_neg hSame]
  · have hOther : ¬ (x' = x ∧ y' = y) := by
      intro hSame
      exact hInside' (by
        rw [hSame.1, hSame.2]
        exact hInside)
    rw [read_outside _ hInside', read_outside _ hInside',
      if_neg hOther]

end Board

end LatticeGas

------------------------------------------------------------
-- Boards from Rows
------------------------------------------------------------

namespace LatticeGas

namespace Board

/- Rows of one length fill as many sites as a rectangle. -/
theorem length_flatten_of_length_eq
    {A : Type}
    {width : Nat}
    {rows : List (List A)}
    (hRows : ∀ row ∈ rows, row.length = width) :
    rows.flatten.length = rows.length * width := by
  induction rows with
  | nil => simp
  | cons row rows ih =>
      have hRow : row.length = width :=
        hRows row (by simp)
      have hRest := ih fun other hOther =>
        hRows other (by simp [hOther])
      simp only [List.flatten_cons, List.length_append,
        List.length_cons, hRow, hRest, Nat.succ_mul]
      omega

/- The board whose row `y` is the row `y` of a square list. -/
def ofRows
    (rows : List (List Cell))
    (hRows : ∀ row ∈ rows, row.length = rows.length) :
    Board rows.length :=
  ⟨⟨rows.flatten.toArray, by
    simp [length_flatten_of_length_eq hRows]⟩⟩

/-
  The first row, counted from `index`, whose length is not
  the width, and that length.
-/
def firstRagged?
    (width : Nat) :
    (index : Nat) → List (List Cell) → Option (Nat × Nat)
| _, [] => none
| index, row :: rows =>
    if row.length = width then
      firstRagged? width (index + 1) rows
    else
      some (index, row.length)

theorem length_of_firstRagged?_eq_none
    {width index : Nat}
    {rows : List (List Cell)}
    (hNone : firstRagged? width index rows = none) :
    ∀ row ∈ rows, row.length = width := by
  induction rows generalizing index with
  | nil => simp
  | cons row rows ih =>
      by_cases hRow : row.length = width
      · simp only [firstRagged?, hRow, if_pos] at hNone
        intro other hOther
        simp only [List.mem_cons] at hOther
        rcases hOther with rfl | hOther
        · exact hRow
        · exact ih hNone other hOther
      · simp [firstRagged?, hRow] at hNone

/- The board of a list of rows, if the list is square. -/
def ofRows?
    (rows : List (List Cell)) :
    Except LatticeError (Board rows.length) :=
  match hRagged : firstRagged? rows.length 0 rows with
  | some (row, found) =>
      .error (.raggedRows row rows.length found)
  | none =>
      .ok (ofRows rows
        (length_of_firstRagged?_eq_none hRagged))

end Board

end LatticeGas

------------------------------------------------------------
-- Row Tasks
------------------------------------------------------------

namespace LatticeGas

namespace Board

variable {side : Nat}

/- The board in the plane, with walls all around it. -/
def plane (board : Board side) : Plane :=
  fun x y =>
    if 0 ≤ x ∧ 0 ≤ y then
      board.read x.toNat y.toNat
    else
      .wall

/- The cell of a site after one tick. -/
def next
    (board : Board side)
    (x y : Nat) : Cell :=
  Cell.tick
    (if x = 0 then .wall else board.read (x - 1) y)
    (board.read (x + 1) y)
    (if y = 0 then .wall else board.read x (y - 1))
    (board.read x (y + 1))
    (board.read x y)

/- Overwrite one row of a board, from its lower end. -/
def writeRow
    (row : Nat → Cell)
    (y : Nat)
    (board : Board side) : Board side :=
  (List.range side).foldl
    (fun board x => board.write x y (row x))
    board

/-
  The task of one row: overwrite that row of the buffer by
  what the current board has there after one tick.
-/
def stepRow
    (current : Board side)
    (buffer : Board side)
    (y : Nat) : Board side :=
  buffer.writeRow (fun x => current.next x y) y

/- Run the tasks of the given rows, one after another. -/
def stepRows
    (current : Board side)
    (order : List Nat)
    (buffer : Board side) : Board side :=
  order.foldl current.stepRow buffer

end Board

end LatticeGas

import Mathlib.Data.List.Induction
import LatticeGas.Proofs.Grid.Simulation

/-
  This file shows which rows make a grid, and which codes make
  rows. Rows must be as many as the cells in each of them, and
  the first one that has another length is reported. Codes
  must be those of cells, and the first one that is not is
  reported. A grid that was made from codes gives them back.
  All this is on a machine that can hold a grid of that side.

  Key definitions include:
    * `Board.SquareRows`
    * `Board.FirstRagged`
    * `Cell.IsCode`
    * `Grid.Held`
    * `Grid.codes`

  Key theorems include:
    * `Board.firstRagged?_eq_some_iff`
    * `Cell.rowsOfRaw?_cases`
    * `Grid.ofRows_cases`
    * `Grid.codes_ofRows`
    * `Grid.ofRows_exact`
-/

------------------------------------------------------------
-- Rows of Wrong Lengths
------------------------------------------------------------

namespace LatticeGas

namespace Board

/- There are as many rows as there are entries in each. -/
def SquareRows
    {A : Type}
    (rows : List (List A)) : Prop :=
  ∀ row ∈ rows, row.length = rows.length

/- The first row that has another length than it should. -/
structure FirstRagged
    (width : Nat)
    (rows : List (List Cell))
    (row found : Nat) : Prop where
  length_eq : (rows.map List.length)[row]? = some found
  length_ne : found ≠ width
  before :
    ∀ other : Nat, other < row →
      (rows.map List.length)[other]? = some width

variable {width row found : Nat}
variable {cells : List Cell}
variable {rows : List (List Cell)}

theorem firstRagged_cons_of_eq
    (hCells : cells.length = width) :
    FirstRagged width (cells :: rows) (row + 1) found ↔
      FirstRagged width rows row found := by
  constructor
  · rintro ⟨hLength, hOther, hBefore⟩
    refine ⟨hLength, hOther, fun other hLess => ?_⟩
    exact hBefore (other + 1) (Nat.succ_lt_succ hLess)
  · rintro ⟨hLength, hOther, hBefore⟩
    refine ⟨hLength, hOther, fun other hLess => ?_⟩
    cases other with
    | zero => simp [hCells]
    | succ other =>
        exact hBefore other (Nat.lt_of_succ_lt_succ hLess)

/- The rows are searched from the first one on. -/
theorem firstRagged?_eq_some_iff
    (width index : Nat)
    (rows : List (List Cell))
    (place found : Nat) :
    firstRagged? width index rows = some (place, found) ↔
      ∃ row,
        place = index + row ∧
          FirstRagged width rows row found := by
  induction rows generalizing index with
  | nil =>
      constructor
      · intro hFirst
        cases hFirst
      · rintro ⟨row, -, hLength, -⟩
        cases hLength
  | cons cells rows ih =>
      by_cases hCells : cells.length = width
      · rw [firstRagged?, if_pos hCells, ih]
        constructor
        · rintro ⟨row, rfl, hFirst⟩
          refine ⟨row + 1, by omega, ?_⟩
          exact (firstRagged_cons_of_eq hCells).mpr hFirst
        · rintro ⟨row, rfl, hFirst⟩
          cases row with
          | zero =>
              have hFound : cells.length = found :=
                Option.some.inj hFirst.length_eq
              exact absurd (hFound.symm.trans hCells)
                hFirst.length_ne
          | succ row =>
              refine ⟨row, by omega, ?_⟩
              exact (firstRagged_cons_of_eq hCells).mp hFirst
      · rw [firstRagged?, if_neg hCells]
        constructor
        · intro hFirst
          cases hFirst
          refine ⟨0, rfl, rfl, hCells, ?_⟩
          intro other hLess
          cases hLess
        · rintro ⟨row, rfl, hFirst⟩
          cases row with
          | zero =>
              have hFound : cells.length = found :=
                Option.some.inj hFirst.length_eq
              rw [hFound]
              rfl
          | succ row =>
              have hZero :=
                hFirst.before 0 (Nat.succ_pos row)
              exact absurd (Option.some.inj hZero) hCells

theorem firstRagged?_eq_none_iff
    (width index : Nat)
    (rows : List (List Cell)) :
    firstRagged? width index rows = none ↔
      ∀ row ∈ rows, row.length = width := by
  constructor
  · exact length_of_firstRagged?_eq_none
  · intro hRows
    induction rows generalizing index with
    | nil => rfl
    | cons cells rows ih =>
        rw [firstRagged?, if_pos (hRows cells (by simp))]
        apply ih
        intro row hRow
        exact hRows row (List.mem_cons_of_mem cells hRow)

/- Rows with as many entries have the same shape. -/
theorem squareRows_map_iff
    {A B : Type}
    (change : A → B)
    (rows : List (List A)) :
    SquareRows (rows.map (List.map change)) ↔
      SquareRows rows := by
  simp [SquareRows]

/- There is only one first row of a wrong length. -/
theorem FirstRagged.unique
    {other length : Nat}
    (hFirst : FirstRagged width rows row found)
    (hOther : FirstRagged width rows other length) :
    row = other ∧ found = length := by
  have hRow :=
    (firstRagged?_eq_some_iff width 0 rows _ _).mpr
      ⟨row, rfl, hFirst⟩
  rw [(firstRagged?_eq_some_iff width 0 rows _ _).mpr
    ⟨other, rfl, hOther⟩] at hRow
  have hSame := Prod.mk.inj (Option.some.inj hRow)
  exact ⟨by omega, hSame.2.symm⟩

/- Rows have a board, or there is a first one that is wrong. -/
theorem ofRows?_cases
    (rows : List (List Cell)) :
    (∃ row found,
        FirstRagged rows.length rows row found ∧
          ofRows? rows =
            .error (.raggedRows row rows.length found)) ∨
      (SquareRows rows ∧
        ∃ board, ofRows? rows = .ok board) := by
  unfold ofRows?
  split
  · next row found hRagged =>
      left
      rcases (firstRagged?_eq_some_iff _ _ _ _ _).mp
          hRagged with
        ⟨place, hPlace, hFirst⟩
      have hSame : row = place := by omega
      subst hSame
      exact ⟨row, found, hFirst, rfl⟩
  · next hNone =>
      right
      exact ⟨(firstRagged?_eq_none_iff _ _ _).mp hNone, _,
        rfl⟩

/- With a row of a wrong length they are no square. -/
theorem FirstRagged.not_squareRows
    (hFirst : FirstRagged rows.length rows row found) :
    ¬ SquareRows rows := by
  intro hSquare
  rcases hFirst with ⟨hLength, hOther, -⟩
  rw [List.getElem?_map, Option.map_eq_some_iff] at hLength
  rcases hLength with ⟨cells, hCells, rfl⟩
  exact hOther (hSquare cells (List.mem_of_getElem? hCells))

end Board

end LatticeGas

------------------------------------------------------------
-- Grids of Rows
------------------------------------------------------------

namespace LatticeGas

namespace Grid

open Board

variable {rows : List (List Cell)}

/-
  Memory can hold the cells of a grid of this side, and the
  machine starts the workers that it has if none are asked
  for.
-/
structure Held
    (machine : Machine)
    (side : Nat) : Prop where
  fits : side * side ≤ memoryLimit
  starts :
    ∃ workers, Config.workers {} machine side = .ok workers

variable {machine : Machine}

/- Rows are refused for lack of any before all else. -/
theorem ofRows_of_length_eq_zero
    (machine : Machine)
    (hRows : rows.length = 0) :
    ofRows machine rows =
      .error (.refused .emptyLattice) := by
  unfold ofRows make
  rw [dif_neg (by omega)]

/-
  Rows are refused because there are none, or because of the
  first one with a wrong length. Otherwise they make a grid.
-/
theorem ofRows_cases
    (hHeld : Held machine rows.length) :
    (rows.length = 0 ∧
        ofRows machine rows =
          .error (.refused .emptyLattice)) ∨
      (0 < rows.length ∧
        ∃ row found,
          FirstRagged rows.length rows row found ∧
            ofRows machine rows =
              .error (.refused
                (.raggedRows row rows.length found))) ∨
      (0 < rows.length ∧ SquareRows rows ∧
        ∃ grid, ofRows machine rows = .ok grid) := by
  by_cases hRows : 0 < rows.length
  · right
    rcases hHeld with ⟨hFits, workers, hWorkers⟩
    rcases ofRows?_cases rows with
      ⟨row, found, hFirst, hRagged⟩ |
      ⟨hSquare, board, hBoard⟩
    · left
      have hPrepare :
          prepare machine rows.length {} = .ok workers :=
        prepare_eq_ok_iff.mpr ⟨hWorkers, hFits⟩
      exact ⟨hRows, row, found, hFirst,
        make_of_refused hRows hPrepare hRagged⟩
    · right
      exact ⟨hRows, hSquare, _, make_eq_ok_iff.mpr
        ⟨hRows, workers, board, hWorkers, hFits, hBoard,
          rfl⟩⟩
  · have hNone : rows.length = 0 := by omega
    exact .inl
      ⟨hNone, ofRows_of_length_eq_zero machine hNone⟩

/- On every machine, only no rows are refused as empty. -/
theorem ofRows_eq_empty_iff
    (machine : Machine)
    (rows : List (List Cell)) :
    ofRows machine rows = .error (.refused .emptyLattice) ↔
      rows.length = 0 := by
  constructor
  · intro hEmpty
    by_contra hSome
    have hPos : 0 < rows.length := by omega
    unfold ofRows make at hEmpty
    rw [dif_pos hPos] at hEmpty
    cases hPrepare : prepare machine rows.length {} with
    | error fault =>
        rw [hPrepare] at hEmpty
        cases hEmpty
    | ok workers =>
        rw [hPrepare] at hEmpty
        rcases ofRows?_cases rows with
          ⟨row, found, -, hRagged⟩ | ⟨-, board, hBoard⟩
        · rw [hRagged] at hEmpty
          cases hEmpty
        · rw [hBoard] at hEmpty
          cases hEmpty
  · exact ofRows_of_length_eq_zero machine

theorem ofRows_eq_ragged_iff
    (hHeld : Held machine rows.length)
    (row expected found : Nat) :
    ofRows machine rows =
        .error (.refused
          (.raggedRows row expected found)) ↔
      0 < rows.length ∧ expected = rows.length ∧
        FirstRagged rows.length rows row found := by
  rcases ofRows_cases hHeld with
    ⟨hNone, hEmpty⟩ |
      ⟨hSome, place, length, hFirst, hRagged⟩ |
      ⟨hSome, hSquare, _, hGrid⟩
  · rw [hEmpty]
    exact iff_of_false nofun (by omega)
  · rw [hRagged]
    constructor
    · intro hSame
      cases hSame
      exact ⟨hSome, rfl, hFirst⟩
    · rintro ⟨-, rfl, hOther⟩
      rcases hFirst.unique hOther with ⟨rfl, rfl⟩
      rfl
  · rw [hGrid]
    exact iff_of_false nofun fun hOther =>
      hOther.2.2.not_squareRows hSquare

theorem exists_ofRows_iff
    (hHeld : Held machine rows.length) :
    (∃ grid, ofRows machine rows = .ok grid) ↔
      0 < rows.length ∧ SquareRows rows := by
  rcases ofRows_cases hHeld with
    ⟨hNone, hEmpty⟩ | ⟨hSome, _, _, hFirst, hRagged⟩ |
      ⟨hSome, hSquare, hGrid⟩
  · rw [hEmpty]
    exact iff_of_false (fun ⟨_, hGrid⟩ => nomatch hGrid)
      (by omega)
  · rw [hRagged]
    exact iff_of_false (fun ⟨_, hGrid⟩ => nomatch hGrid)
      fun hOther => hFirst.not_squareRows hOther.2
  · exact iff_of_true hGrid ⟨hSome, hSquare⟩

/- Rows of which a grid was made are a square. -/
theorem squareRows_of_ofRows_eq_ok
    {grid : Grid}
    (hGrid : ofRows machine rows = .ok grid) :
    SquareRows rows := by
  rcases make_eq_ok_iff.mp hGrid with
    ⟨-, -, board, -, -, hBoard, -⟩
  exact (Source.ofRows?_eq_ok hBoard).choose

/- A grid of rows is at its first tick, and pictures them. -/
theorem pictures_ofRows
    {grid : Grid}
    (hGrid : ofRows machine rows = .ok grid) :
    grid.timestep = 0 ∧
      grid.Pictures rows.length
        ((Source.ofRows rows).cells
          Randomness.Generator.standard) := by
  have hMake :
      (Source.ofRows rows).make Randomness.Generator.standard
        machine {} = .ok grid :=
    hGrid
  rcases Source.of_make_eq_ok hMake with
    ⟨hSide, -, hStart, hPlane, -⟩
  exact ⟨hStart, hSide, hPlane⟩

/- A grid of rows has the cells of the rows. -/
theorem cellAt_ofRows
    {grid : Grid}
    (hGrid : ofRows machine rows = .ok grid)
    {y x : Nat}
    {row : List Cell}
    {cell : Cell}
    (hRow : rows[y]? = some row)
    (hCell : row[x]? = some cell) :
    grid.cellAt x y = .ok cell := by
  have hPictures := (pictures_ofRows hGrid).2
  have hy := (List.getElem?_eq_some_iff.mp hRow).choose
  have hx := (List.getElem?_eq_some_iff.mp hCell).choose
  have hSquare := squareRows_of_ofRows_eq_ok hGrid
  rw [hSquare row (List.mem_of_getElem? hRow)] at hx
  rw [hPictures.cellAt_eq hx hy]
  simp only [Source.cells, hRow, Option.bind_some, hCell,
    Option.getD_some]

/- So each of its sites has the cell of a row. -/
theorem exists_cellAt_ofRows
    {grid : Grid}
    (hGrid : ofRows machine rows = .ok grid)
    {x y : Nat}
    (hx : x < rows.length)
    (hy : y < rows.length) :
    ∃ row cell,
      rows[y]? = some row ∧ row[x]? = some cell ∧
        grid.cellAt x y = .ok cell := by
  have hSquare := squareRows_of_ofRows_eq_ok hGrid
  have hRow := List.getElem?_eq_getElem hy
  rw [← hSquare _ (List.mem_of_getElem? hRow)] at hx
  have hCell := List.getElem?_eq_getElem hx
  exact ⟨_, _, hRow, hCell, cellAt_ofRows hGrid hRow hCell⟩

end Grid

end LatticeGas

------------------------------------------------------------
-- Codes of Cells
------------------------------------------------------------

namespace LatticeGas

namespace Cell

/- The codes of cells are those of flows and that of walls. -/
def IsCode (raw : Int) : Prop :=
  -1 ≤ raw ∧ raw ≤ 15

instance
    (raw : Int) :
    Decidable (IsCode raw) := by
  unfold IsCode
  infer_instance

/- The first of several codes, if any, that has no cell. -/
def firstInvalid? (raws : List Int) : Option Int :=
  raws.find? fun raw => ¬ IsCode raw

/- A code has a cell, or it is refused as it is. -/
theorem ofRaw?_cases
    (raw : Int) :
    (IsCode raw ∧ ∃ cell, ofRaw? raw = .ok cell) ∨
      (¬ IsCode raw ∧
        ofRaw? raw = .error (.invalidCell raw)) := by
  unfold IsCode
  match raw with
  | .ofNat field =>
      by_cases hField : field < 16
      · left
        refine ⟨?_, .gas (Flow.ofBits field), ?_⟩
        · rw [Int.ofNat_eq_natCast]
          omega
        · rw [ofRaw?, if_pos hField]
      · right
        constructor
        · rw [Int.ofNat_eq_natCast]
          omega
        · rw [ofRaw?, if_neg hField]
          rfl
  | .negSucc 0 =>
      left
      exact ⟨by decide, .wall, rfl⟩
  | .negSucc (n + 1) =>
      right
      refine ⟨?_, rfl⟩
      omega

/-
  Codes are read from the first one on. They all have cells,
  with just these codes, or the first one without is refused.
-/
theorem mapM_ofRaw?_cases
    (raws : List Int) :
    (firstInvalid? raws = none ∧
        ∃ cells,
          raws.mapM ofRaw? = .ok cells ∧
            cells.map toRaw = raws) ∨
      ∃ raw,
        firstInvalid? raws = some raw ∧
          raws.mapM ofRaw? = .error (.invalidCell raw) := by
  unfold firstInvalid?
  induction raws with
  | nil => exact .inl ⟨rfl, [], rfl, rfl⟩
  | cons raw raws ih =>
      rw [List.mapM_cons]
      rcases ofRaw?_cases raw with
        ⟨hCode, cell, hCell⟩ | ⟨hCode, hRefused⟩
      · rw [List.find?_cons_of_neg (by simpa using hCode),
          hCell]
        rcases ih with
          ⟨hNone, cells, hCells, hSame⟩ |
            ⟨bad, hBad, hError⟩
        · left
          refine ⟨hNone, cell :: cells, ?_, ?_⟩
          · rw [hCells]
            rfl
          · rw [List.map_cons, hSame, toRaw_of_ofRaw? hCell]
        · right
          refine ⟨bad, hBad, ?_⟩
          rw [hError]
          rfl
      · right
        refine ⟨raw, ?_, ?_⟩
        · exact List.find?_cons_of_pos (by simpa using hCode)
        · rw [hRefused]
          rfl

/- And so are rows of codes, row after row. -/
theorem rowsOfRaw?_cases
    (raws : List (List Int)) :
    (firstInvalid? raws.flatten = none ∧
        ∃ rows,
          rowsOfRaw? raws = .ok rows ∧
            rows.map (List.map toRaw) = raws) ∨
      ∃ raw,
        firstInvalid? raws.flatten = some raw ∧
          rowsOfRaw? raws = .error (.invalidCell raw) := by
  unfold rowsOfRaw?
  induction raws with
  | nil => exact .inl ⟨rfl, [], rfl, rfl⟩
  | cons row raws ih =>
      have hFlatten :
          firstInvalid? (row :: raws).flatten =
            (firstInvalid? row).or
              (firstInvalid? raws.flatten) :=
        List.find?_append
      rw [hFlatten, List.mapM_cons]
      rcases mapM_ofRaw?_cases row with
        ⟨hNone, cells, hCells, hRow⟩ |
          ⟨bad, hBad, hError⟩
      · rw [hNone, hCells, Option.none_or]
        rcases ih with
          ⟨hRest, rows, hRows, hSame⟩ |
            ⟨bad, hBad, hError⟩
        · left
          refine ⟨hRest, cells :: rows, ?_, ?_⟩
          · rw [hRows]
            rfl
          · rw [List.map_cons, hSame, hRow]
        · right
          refine ⟨bad, hBad, ?_⟩
          rw [hError]
          rfl
      · right
        refine ⟨bad, ?_, ?_⟩
        · rw [hBad, Option.some_or]
        · rw [hError]
          rfl

theorem rowsOfRaw?_eq_error_iff
    (raws : List (List Int))
    (error : LatticeError) :
    rowsOfRaw? raws = .error error ↔
      ∃ raw,
        firstInvalid? raws.flatten = some raw ∧
          error = .invalidCell raw := by
  rcases rowsOfRaw?_cases raws with
    ⟨hNone, rows, hRows, -⟩ | ⟨bad, hBad, hError⟩
  · rw [hRows, hNone]
    exact iff_of_false nofun nofun
  · rw [hError, hBad]
    constructor
    · intro hSame
      cases hSame
      exact ⟨bad, rfl, rfl⟩
    · rintro ⟨raw, hRaw, rfl⟩
      cases hRaw
      rfl

/- Rows that were read have the codes they were read from. -/
theorem map_toRaw_of_rowsOfRaw?
    {raws : List (List Int)}
    {rows : List (List Cell)}
    (hRows : rowsOfRaw? raws = .ok rows) :
    rows.map (List.map toRaw) = raws := by
  rcases rowsOfRaw?_cases raws with
    ⟨-, found, hFound, hSame⟩ | ⟨bad, -, hError⟩
  · rw [hRows] at hFound
    cases hFound
    exact hSame
  · rw [hRows] at hError
    cases hError

end Cell

end LatticeGas

------------------------------------------------------------
-- Codes of Grids
------------------------------------------------------------

namespace LatticeGas

namespace Grid

open Board Cell

/- The codes of all cells of a grid, row after row. -/
def codes (grid : Grid) : Except Fault (List (List Int)) :=
  (List.range grid.side).mapM fun y =>
    (List.range grid.side).mapM fun x =>
      (grid.cellAt x y).map toRaw

/- Values that are asked for by their places make a list. -/
theorem mapM_range_eq_ok
    {A : Type}
    {ask : Nat → Except Fault A}
    {values : List A}
    (hAsk :
      ∀ (place : Nat) (value : A),
        values[place]? = some value →
          ask place = .ok value) :
    (List.range values.length).mapM ask = .ok values := by
  induction values using List.reverseRecOn with
  | nil => rfl
  | append_singleton values value ih =>
      have hInit :
          (List.range values.length).mapM ask =
            .ok values := by
        apply ih
        intro place early hEarly
        have hPlace :=
          (List.getElem?_eq_some_iff.mp hEarly).choose
        apply hAsk
        rw [List.getElem?_append_left hPlace, hEarly]
      have hLast : ask values.length = .ok value := by
        apply hAsk
        rw [List.getElem?_concat_length]
      rw [List.length_append, List.length_singleton,
        List.range_succ, List.mapM_append, hInit,
        List.mapM_cons, hLast]
      rfl

/- A grid gives back the codes from which it was made. -/
theorem codes_ofRows
    {machine : Machine}
    {rows : List (List Cell)}
    {grid : Grid}
    (hGrid : ofRows machine rows = .ok grid) :
    grid.codes = .ok (rows.map (List.map toRaw)) := by
  have hSquare := squareRows_of_ofRows_eq_ok hGrid
  have hSide : grid.side = rows.length :=
    (pictures_ofRows hGrid).2.side_eq
  have hRow :
      ∀ (y : Nat) (raws : List Int),
        (rows.map (List.map toRaw))[y]? = some raws →
          ((List.range rows.length).mapM fun x =>
            (grid.cellAt x y).map toRaw) = .ok raws := by
    intro y raws hRaws
    rw [List.getElem?_map, Option.map_eq_some_iff] at hRaws
    rcases hRaws with ⟨row, hRow, rfl⟩
    have hLength :=
      hSquare row (List.mem_of_getElem? hRow)
    have hCells :
        ∀ (x : Nat) (raw : Int),
          (row.map toRaw)[x]? = some raw →
            (grid.cellAt x y).map toRaw = .ok raw := by
      intro x raw hRaw
      rw [List.getElem?_map, Option.map_eq_some_iff] at hRaw
      rcases hRaw with ⟨cell, hCell, rfl⟩
      rw [cellAt_ofRows hGrid hRow hCell]
      rfl
    have hRead := mapM_range_eq_ok hCells
    rwa [List.length_map, hLength] at hRead
  have hRead := mapM_range_eq_ok hRow
  rw [List.length_map] at hRead
  rw [codes, hSide, hRead]

/-
  Rows of cells make a grid if and only if there are as many
  of them as cells in each, and not none. The grid has these
  cells and is at its first tick. Else it is refused because
  there are no rows, or because of the first row of a wrong
  length. Codes make rows of cells unless there is one without
  a cell, and the first one of these is refused. What a grid
  is made from, it gives back. The machine has to hold a grid
  with so many rows, be they ragged.
-/
theorem ofRows_exact
    {machine : Machine}
    {rows : List (List Cell)}
    {raws : List (List Int)}
    (hRows : Held machine rows.length)
    (hRaws : Held machine raws.length) :
    (ofRows machine rows =
          .error (.refused .emptyLattice) ↔
        rows.length = 0) ∧
      (∀ row expected found : Nat,
        ofRows machine rows =
            .error (.refused
              (.raggedRows row expected found)) ↔
          0 < rows.length ∧ expected = rows.length ∧
            FirstRagged rows.length rows row found) ∧
      ((∃ grid, ofRows machine rows = .ok grid) ↔
        0 < rows.length ∧ SquareRows rows) ∧
      (∀ grid : Grid, ofRows machine rows = .ok grid →
        grid.side = rows.length ∧ grid.timestep = 0 ∧
          ∀ x y : Nat, x < rows.length → y < rows.length →
            ∃ row cell,
              rows[y]? = some row ∧ row[x]? = some cell ∧
                grid.cellAt x y = .ok cell) ∧
      (∀ error : LatticeError,
        rowsOfRaw? raws = .error error ↔
          ∃ raw,
            firstInvalid? raws.flatten = some raw ∧
              error = .invalidCell raw) ∧
      ∀ cells : List (List Cell),
        rowsOfRaw? raws = .ok cells →
          0 < raws.length → SquareRows raws →
            ∃ grid,
              ofRows machine cells = .ok grid ∧
                grid.codes = .ok raws := by
  refine ⟨ofRows_eq_empty_iff machine rows,
    ofRows_eq_ragged_iff hRows, exists_ofRows_iff hRows, ?_,
    rowsOfRaw?_eq_error_iff raws, ?_⟩
  · intro grid hGrid
    rcases pictures_ofRows hGrid with ⟨hStart, hPictures⟩
    exact ⟨hPictures.side_eq, hStart, fun x y hx hy =>
      exists_cellAt_ofRows hGrid hx hy⟩
  · intro cells hCells hPos hSquare
    obtain rfl := map_toRaw_of_rowsOfRaw? hCells
    rw [squareRows_map_iff] at hSquare
    rw [List.length_map] at hPos hRaws
    rcases (exists_ofRows_iff hRaws).mpr ⟨hPos, hSquare⟩
      with ⟨grid, hGrid⟩
    exact ⟨grid, hGrid, codes_ofRows hGrid⟩

/-
  A short row is refused, and so is the first code without a
  cell. Codes of two rows with two cells come back.
-/
theorem ofRows_exact_two_wide :
    ofRows Machine.sequential [[.empty, .wall], []] =
        .error (.refused (.raggedRows 1 2 0)) ∧
      rowsOfRaw? [[9, 16], [-2]] =
        .error (.invalidCell 16) ∧
      ∃ rows grid,
        rowsOfRaw? [[9, -1], [0, 2]] = .ok rows ∧
          ofRows Machine.sequential rows = .ok grid ∧
          grid.codes = .ok [[9, -1], [0, 2]] ∧
          grid.side = rows.length ∧ grid.timestep = 0 := by
  have hFirst :
      FirstRagged 2 [[.empty, .wall], []] 1 0 := by
    refine ⟨rfl, by decide, fun other hOther => ?_⟩
    have hZero : other = 0 := by omega
    subst hZero
    rfl
  have hTwo : Held Machine.sequential 2 :=
    ⟨by decide, none, rfl⟩
  have hRows :
      ∃ rows, rowsOfRaw? [[9, -1], [0, 2]] = .ok rows :=
    ⟨_, rfl⟩
  rcases hRows with ⟨rows, hRows⟩
  have hLength : rows.length = 2 := by
    have hSame := map_toRaw_of_rowsOfRaw? hRows
    simpa using congrArg List.length hSame
  have hShort :
      Held Machine.sequential
        ([[.empty, .wall], []] : List (List Cell)).length :=
    hTwo
  have hHeld : Held Machine.sequential rows.length :=
    hLength ▸ hTwo
  have hInvalid :
      Held Machine.sequential
        ([[9, 16], [-2]] : List (List Int)).length :=
    hTwo
  have hValid :
      Held Machine.sequential
        ([[9, -1], [0, 2]] : List (List Int)).length :=
    hTwo
  rcases ofRows_exact hShort hInvalid with
    ⟨-, hRagged, -, -, hRefused, -⟩
  rcases ofRows_exact hHeld hValid with
    ⟨-, -, -, hMade, -, hCodes⟩
  rcases hCodes rows hRows (by decide) (by simp [SquareRows])
    with ⟨grid, hGrid, hSame⟩
  have hStart := hMade grid hGrid
  exact ⟨(hRagged 1 2 0).mpr ⟨by decide, rfl, hFirst⟩,
    (hRefused _).mpr ⟨16, rfl, rfl⟩,
    rows, grid, hRows, hGrid, hSame, hStart.1, hStart.2.1⟩

end Grid

end LatticeGas

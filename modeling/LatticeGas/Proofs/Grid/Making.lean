import Mathlib.Data.List.Nodup
import Mathlib.Data.List.ProdSigma
import LatticeGas.Grid.Fill
import LatticeGas.Proofs.Grid.Ticks

/-
  This file shows which cells a new grid has, from whatever
  it is made: none but empty ones, those of a list of rows,
  or those of a random gas. For whatever source a grid is
  made, if memory can hold it and its workers are started.

  Key definitions include:
    * `Fill.cellOf`
    * `Grid.Source`
    * `Grid.Source.make`
    * `Grid.Source.cells`

  Key theorems include:
    * `Board.read_ofRows`
    * `Fill.read_board`
    * `Grid.make_eq_ok_iff`
    * `Grid.Source.of_make_eq_ok`
-/

------------------------------------------------------------
-- Rows
------------------------------------------------------------

namespace LatticeGas

namespace Board

variable {A : Type}
variable {width x : Nat}

/- In rows of one length, put end to end, no two rows mix. -/
theorem getElem?_flatten_of_length_eq
    {rows : List (List A)}
    (hRows : ∀ row ∈ rows, row.length = width)
    (hx : x < width)
    (y : Nat) :
    rows.flatten[y * width + x]? =
      rows[y]?.bind fun row => row[x]? := by
  induction rows generalizing y with
  | nil => simp
  | cons row rows ih =>
      have hRow : row.length = width :=
        hRows row (by simp)
      have hRest : ∀ other ∈ rows, other.length = width :=
        fun other hOther => hRows other (by simp [hOther])
      rw [List.flatten_cons]
      cases y with
      | zero =>
          have hFirst : 0 * width + x < row.length := by
            omega
          rw [List.getElem?_append_left hFirst]
          simp
      | succ y =>
          have hLater :
              row.length ≤ (y + 1) * width + x := by
            rw [Nat.succ_mul]
            omega
          have hPosition :
              (y + 1) * width + x - row.length =
                y * width + x := by
            rw [Nat.succ_mul]
            omega
          rw [List.getElem?_append_right hLater, hPosition,
            ih hRest, List.getElem?_cons_succ]

/- The board of a square list has its rows. -/
theorem read_ofRows
    {rows : List (List Cell)}
    (hRows : ∀ row ∈ rows, row.length = rows.length)
    {y : Nat}
    (hx : x < rows.length)
    (hy : y < rows.length) :
    (ofRows rows hRows).read x y =
      (rows[y]?.bind fun row => row[x]?).getD .wall := by
  have hInside : x < rows.length ∧ y < rows.length :=
    ⟨hx, hy⟩
  rw [← getElem?_flatten_of_length_eq hRows hx y]
  simp only [read, ofRows, dif_pos hInside]
  have hPosition :
      y * rows.length + x < rows.flatten.length := by
    rw [length_flatten_of_length_eq hRows]
    exact position_lt hInside
  rw [List.getElem?_eq_getElem hPosition]
  simp

end Board

end LatticeGas

------------------------------------------------------------
-- Filled Boards
------------------------------------------------------------

namespace LatticeGas

namespace Board

variable {side x y : Nat}

/- Sites that are not filled stay as they are. -/
theorem read_fill_of_not_mem
    {filled : List ((Nat × Nat) × Cell)}
    (hInside :
      ∀ entry ∈ filled, entry.1.1 < side ∧ entry.1.2 < side)
    (hOther : (x, y) ∉ filled.map Prod.fst)
    (board : Board side) :
    (filled.foldl
        (fun board entry =>
          board.write entry.1.1 entry.1.2 entry.2)
        board).read x y =
      board.read x y := by
  induction filled generalizing board with
  | nil => rfl
  | cons entry filled ih =>
      have hEntry := hInside entry (by simp)
      have hRest :
          ∀ other ∈ filled,
            other.1.1 < side ∧ other.1.2 < side :=
        fun other hMem => hInside other (by simp [hMem])
      simp only [List.map_cons, List.mem_cons, not_or]
        at hOther
      have hSite : ¬ (x = entry.1.1 ∧ y = entry.1.2) := by
        intro hSame
        exact hOther.1 (Prod.ext hSame.1 hSame.2)
      rw [List.foldl_cons, ih hRest hOther.2,
        read_write board entry.2 hEntry, if_neg hSite]

/- A site that is filled once has the cell from there. -/
theorem read_fill_of_mem
    {filled : List ((Nat × Nat) × Cell)}
    (hInside :
      ∀ entry ∈ filled, entry.1.1 < side ∧ entry.1.2 < side)
    (hOnce : (filled.map Prod.fst).Nodup)
    {cell : Cell}
    (hMem : ((x, y), cell) ∈ filled)
    (board : Board side) :
    (filled.foldl
        (fun board entry =>
          board.write entry.1.1 entry.1.2 entry.2)
        board).read x y =
      cell := by
  induction filled generalizing board with
  | nil => cases hMem
  | cons entry filled ih =>
      have hEntry := hInside entry (by simp)
      have hRest :
          ∀ other ∈ filled,
            other.1.1 < side ∧ other.1.2 < side :=
        fun other hOther => hInside other (by simp [hOther])
      rw [List.map_cons, List.nodup_cons] at hOnce
      rw [List.foldl_cons]
      rcases List.mem_cons.mp hMem with rfl | hLater
      · rw [read_fill_of_not_mem hRest hOnce.1,
          read_write board cell hEntry, if_pos ⟨rfl, rfl⟩]
      · exact ih hRest hOnce.2 hLater _

end Board

end LatticeGas

------------------------------------------------------------
-- Random Gas
------------------------------------------------------------

namespace LatticeGas

namespace Fill

open Randomness

variable {side x y : Nat}

/- The sites are all pairs of positions below the side. -/
theorem sites_eq_product
    (side : Nat) :
    sites side = List.range side ×ˢ List.range side :=
  rfl

/- Every site is filled, and it is filled once. -/
theorem mem_sites_iff :
    (x, y) ∈ sites side ↔ x < side ∧ y < side := by
  rw [sites_eq_product, List.mem_product, List.mem_range,
    List.mem_range]

theorem nodup_sites
    (side : Nat) :
    (sites side).Nodup :=
  List.nodup_range.product List.nodup_range

/- One cell is drawn for each site. -/
theorem length_draw
    {S A B : Type}
    (draw : A → Draw S B)
    (sources : List A)
    (state : S) :
    ((sources.mapM draw).run state).1.length =
      sources.length := by
  induction sources generalizing state with
  | nil => rfl
  | cons source sources ih =>
      rw [List.mapM_cons]
      change
        ((sources.mapM draw).run
          ((draw source).run state).2).1.length + 1 = _
      rw [ih, List.length_cons]

theorem length_cells
    (generator : Generator)
    (side : Nat)
    (temperature : Float)
    (seed : UInt64) :
    (cells generator side temperature seed).length =
      (sites side).length :=
  length_draw _ _ _

/- Sites come column after column. -/
theorem getElem?_sites
    (hx : x < side)
    (hy : y < side) :
    (sites side)[x * side + y]? = some (x, y) := by
  have hColumns :
      ∀ column ∈ (List.range side).map fun x =>
          (List.range side).map fun y => (x, y),
        column.length = side := by
    intro column hColumn
    rcases List.mem_map.mp hColumn with ⟨x, -, rfl⟩
    simp
  rw [sites, List.flatMap_def,
    Board.getElem?_flatten_of_length_eq hColumns hy x]
  simp [hx, hy]

/- The cell of a site of a random gas. -/
def cellOf
    (generator : Generator)
    (side : Nat)
    (temperature : Float)
    (seed : UInt64)
    (x y : Nat) : Cell :=
  (cells generator side temperature seed).getD
    (x * side + y) .empty

/- The board of a random gas has the cells that were drawn. -/
theorem read_board
    (generator : Generator)
    (temperature : Float)
    (seed : UInt64)
    (hx : x < side)
    (hy : y < side) :
    (board generator side temperature seed).read x y =
      cellOf generator side temperature seed x y := by
  have hLength :=
    length_cells generator side temperature seed
  have hSites :
      ((sites side).zip (cells generator side temperature
          seed)).map Prod.fst =
        sites side :=
    List.map_fst_zip (Nat.le_of_eq hLength.symm)
  have hSite := getElem?_sites hx hy
  have hPosition : x * side + y < (sites side).length :=
    (List.getElem?_eq_some_iff.mp hSite).choose
  have hCell :
      (cells generator side temperature
          seed)[x * side + y]? =
        some (cellOf generator side temperature seed x y) :=
      by
    have hDrawn := hPosition
    rw [← hLength] at hDrawn
    rw [cellOf, List.getD_eq_getElem?_getD,
      List.getElem?_eq_getElem hDrawn]
    rfl
  unfold board
  apply Board.read_fill_of_mem
  · intro entry hEntry
    have hMem : entry.1 ∈ sites side := by
      rw [← hSites]
      exact List.mem_map_of_mem hEntry
    exact mem_sites_iff.mp hMem
  · rw [hSites]
    exact nodup_sites side
  · apply List.mem_of_getElem?
    rw [List.getElem?_zip_eq_some]
    exact ⟨hSite, hCell⟩

end Fill

end LatticeGas

------------------------------------------------------------
-- New Grids
------------------------------------------------------------

namespace LatticeGas

namespace Grid

/- The grid with the cells of a board shows these cells. -/
theorem plane_ofBoard
    {side : Nat}
    (hSide : 0 < side)
    {board : Board side}
    {cells : Nat → Nat → Cell}
    (hRead :
      ∀ x y, x < side → y < side →
        board.read x y = cells x y)
    (workers : Option Nat) :
    (ofBoard hSide board workers).plane =
      Plane.ofCells side cells := by
  change board.plane = _
  rw [Board.plane_eq_ofCells]
  exact Plane.ofCells_congr hRead

variable {machine : Machine}
variable {side : Nat}
variable {config : Config}
variable {workers : Option Nat}

/- Nothing but the machine keeps workers from starting. -/
theorem Config.workers_cases
    (config : Config)
    (machine : Machine)
    (side : Nat) :
    (∃ reason,
        config.workers machine side =
          .error (.noWorkers reason)) ∨
      ∃ workers, config.workers machine side = .ok workers := by
  unfold workers
  split
  · split
    · exact Or.inr ⟨_, rfl⟩
    · exact Or.inl ⟨_, rfl⟩
  · exact Or.inr ⟨_, rfl⟩

/- A grid needs its workers, and memory for its cells. -/
theorem prepare_eq_ok_iff :
    prepare machine side config = .ok workers ↔
      config.workers machine side = .ok workers ∧
        side * side ≤ memoryLimit := by
  have hLess : memoryLimit < countLimit := by decide
  unfold prepare
  cases config.workers machine side with
  | error fault => simp [bind, Except.bind]
  | ok started =>
      by_cases hFits : side * side ≤ memoryLimit
      · have hCount : side * side < countLimit := by omega
        simp [require, hFits, hCount, bind, Except.bind,
          pure, Except.pure]
      · by_cases hCount : side * side < countLimit
        · simp [require, hFits, hCount, bind, Except.bind]
        · simp [require, hFits, hCount, bind, Except.bind]

/- What it takes that a grid is made. -/
theorem make_eq_ok_iff
    {board : Unit → Except LatticeError (Board side)}
    {grid : Grid} :
    make machine side config board = .ok grid ↔
      ∃ (hSide : 0 < side) (workers : Option Nat)
        (cells : Board side),
        config.workers machine side = .ok workers ∧
          side * side ≤ memoryLimit ∧
          board () = .ok cells ∧
          grid = ofBoard hSide cells workers := by
  unfold make
  constructor
  · intro hMake
    split at hMake
    · next hSide =>
        split at hMake
        · cases hMake
        · next workers hPrepare =>
            split at hMake
            · cases hMake
            · next cells hBoard =>
                cases hMake
                rw [prepare_eq_ok_iff] at hPrepare
                exact ⟨hSide, workers, cells, hPrepare.1,
                  hPrepare.2, hBoard, rfl⟩
    · cases hMake
  · rintro ⟨hSide, workers, cells, hWorkers, hFits, hBoard,
      rfl⟩
    have hPrepare :
        prepare machine side config = .ok workers :=
      prepare_eq_ok_iff.mpr ⟨hWorkers, hFits⟩
    rw [dif_pos hSide, hPrepare, hBoard]

/- A source without a board is refused as it is. -/
theorem make_of_refused
    {board : Unit → Except LatticeError (Board side)}
    {error : LatticeError}
    (hSide : 0 < side)
    (hPrepare : prepare machine side config = .ok workers)
    (hBoard : board () = .error error) :
    make machine side config board =
      .error (.refused error) := by
  unfold make
  rw [dif_pos hSide, hPrepare, hBoard]

/-
  On another machine or with another configuration the same
  grid is made but for its workers, if these are started.
-/
theorem make_reconfigured
    {board : Unit → Except LatticeError (Board side)}
    {grid : Grid}
    (hMake : make machine side config board = .ok grid)
    (machine' : Machine)
    (other : Config) :
    (∃ reason,
        make machine' side other board =
          .error (.broken (.noWorkers reason))) ∨
      ∃ workers,
        make machine' side other board =
          .ok { grid with workers := workers } := by
  rcases make_eq_ok_iff.mp hMake with
    ⟨hSide, workers, cells, -, hFits, hBoard, rfl⟩
  rcases other.workers_cases machine' side with
    ⟨reason, hWorkers⟩ | ⟨started, hWorkers⟩
  · left
    refine ⟨reason, ?_⟩
    unfold make prepare
    rw [dif_pos hSide, hWorkers]
    rfl
  · right
    exact ⟨started, make_eq_ok_iff.mpr
      ⟨hSide, started, cells, hWorkers, hFits, hBoard, rfl⟩⟩

/-
  If the workers of two configurations are started, the same
  is made but for them, be it a grid or not.
-/
theorem make_of_workers
    {config other : Config}
    {first second : Option Nat}
    (hFirst : config.workers machine side = .ok first)
    (hSecond : other.workers machine side = .ok second)
    (board : Unit → Except LatticeError (Board side)) :
    make machine side other board =
      (make machine side config board).map fun grid =>
        { grid with workers := second } := by
  unfold make prepare
  rw [hFirst, hSecond]
  simp only [bind, Except.bind]
  split
  · cases require (side * side < countLimit) _ with
    | error fault => rfl
    | ok _ =>
        cases require (side * side ≤ memoryLimit) _ with
        | error fault => rfl
        | ok _ =>
            simp only [pure, Except.pure]
            cases board () with
            | error error => rfl
            | ok cells => rfl
  · rfl

end Grid

end LatticeGas

------------------------------------------------------------
-- Sources of Grids
------------------------------------------------------------

namespace LatticeGas

namespace Grid

/- What a grid can be made from. -/
inductive Source where
  | blank (side : Nat)
  | ofRows (rows : List (List Cell))
  | random (side : Nat) (temperature : Float) (seed : UInt64)

namespace Source

open Randomness

/- The side of the grid that is made. -/
def side : Source → Nat
| .blank side => side
| .ofRows rows => rows.length
| .random side _ _ => side

/- The board of the grid, unless the source is refused. -/
def board
    (generator : Generator) :
    (source : Source) →
      Except LatticeError (Board source.side)
| .blank _ => .ok (Board.uniform Cell.empty)
| .ofRows rows => Board.ofRows? rows
| .random side temperature seed =>
    .ok (Fill.board generator side temperature seed)

/- For a list of rows there is no choice of a configuration. -/
def configured
    (config : Config) : Source → Config
| .blank _ => config
| .ofRows _ => {}
| .random _ _ _ => config

/- The grid that is made. -/
def make
    (generator : Generator)
    (machine : Machine)
    (config : Config) : Source → Except Failure Grid
| .blank side => Grid.new machine side config
| .ofRows rows => Grid.ofRows machine rows
| .random side temperature seed =>
    Grid.random generator machine side temperature seed
      config

/- The cells that the grid has before its first tick. -/
def cells
    (generator : Generator) : Source → Nat → Nat → Cell
| .blank _, _, _ => .empty
| .ofRows rows, x, y =>
    (rows[y]?.bind fun row => row[x]?).getD .wall
| .random side temperature seed, x, y =>
    Fill.cellOf generator side temperature seed x y

variable {generator : Generator}
variable {machine : Machine}
variable {source : Source}

/- All grids are made in the same way. -/
theorem make_eq
    (generator : Generator)
    (machine : Machine)
    (config : Config)
    (source : Source) :
    source.make generator machine config =
      Grid.make machine source.side (source.configured config)
        fun _ => source.board generator := by
  cases source with
  | blank side => rfl
  | ofRows rows => rfl
  | random side temperature seed => rfl

/- Only square lists of rows have a board. -/
theorem ofRows?_eq_ok
    {rows : List (List Cell)}
    {board : Board rows.length}
    (hBoard : Board.ofRows? rows = .ok board) :
    ∃ hRows : ∀ row ∈ rows, row.length = rows.length,
      board = Board.ofRows rows hRows := by
  unfold Board.ofRows? at hBoard
  split at hBoard
  · cases hBoard
  · cases hBoard
    exact ⟨_, rfl⟩

/- The board of a source has its cells. -/
theorem read_board
    {board : Board source.side}
    (hBoard : source.board generator = .ok board)
    {x y : Nat}
    (hx : x < source.side)
    (hy : y < source.side) :
    board.read x y = source.cells generator x y := by
  cases source with
  | blank side =>
      cases hBoard
      exact Board.read_uniform .empty ⟨hx, hy⟩
  | ofRows rows =>
      rcases ofRows?_eq_ok hBoard with ⟨hRows, rfl⟩
      exact Board.read_ofRows hRows hx hy
  | random side temperature seed =>
      cases hBoard
      exact Fill.read_board generator temperature seed hx hy

/-
  A grid that was made is at its first tick and has these
  cells, and memory holds one byte for each of them. Elsewhere
  the same grid is made but for its workers.
-/
theorem of_make_eq_ok
    {config : Config}
    {grid : Grid}
    (hMake : source.make generator machine config = .ok grid) :
    grid.side = source.side ∧
      source.side * source.side ≤ memoryLimit ∧
      grid.timestep = 0 ∧
      grid.plane =
        Plane.ofCells source.side (source.cells generator) ∧
      ∀ (machine' : Machine) (other : Config),
        (∃ reason,
            source.make generator machine' other =
              .error (.broken (.noWorkers reason))) ∨
          ∃ workers,
            source.make generator machine' other =
              .ok { grid with workers := workers } := by
  have hTwin := fun machine' other =>
    make_reconfigured (source.make_eq .. ▸ hMake) machine'
      (source.configured other)
  rw [make_eq] at hMake
  rcases make_eq_ok_iff.mp hMake with
    ⟨hSide, workers, cells, -, hFits, hBoard, rfl⟩
  refine ⟨rfl, hFits, rfl, ?_, ?_⟩
  · apply plane_ofBoard
    exact fun x y hx hy => read_board hBoard hx hy
  · intro machine' other
    rw [make_eq]
    exact hTwin machine' other

end Source

end Grid

end LatticeGas

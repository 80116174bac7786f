import LatticeGas.Proofs.Arena.Counting
import LatticeGas.Proofs.Arena.Gathering
import LatticeGas.Proofs.Tracker.SeedCost

/-
  This file tells for which lattices there are numbers for all
  nodes of a new tracker. If nodes are shared, there is one
  for each square that is part of the lattice's square. If
  they are not, then it is the side that decides.

  Key definitions include:
    * `Lattice.square`
    * `Square.pieces`
    * `Tracker.Overfull`

  Key theorems include:
    * `Building.exists_lays_seed`
    * `Tracker.ofLattice_shares`
    * `Tracker.nodeLimit_lt_seedNodes`
    * `Tracker.build_cases_of_overfull`
-/

------------------------------------------------------------
-- What a Seed Gathers
------------------------------------------------------------

namespace LatticeGas

namespace Building

open Arena

variable {L : Type}
variable [Lattice L]
variable {lattice : L}

/- The trail of a seed, which is made of its parts. -/
theorem exists_lays_seed
    (hReadable : Lattice.Readable lattice)
    (arena : Arena)
    {level : Nat}
    (hMax : level ≤ maxLevel)
    (x y : Nat) :
    ∃ trail,
      (∀ piece ∈ trail,
        piece ∈
          (Square.ofPlane level
            ((Lattice.plane lattice).shift x y)).parts) ∧
      Lays (seed lattice level x y) arena trail
        (Square.ofPlane level
          ((Lattice.plane lattice).shift x y)) := by
  have hWalled := Lattice.walledOutside_plane lattice
  fun_induction seed lattice level x y with
  | case1 level x y hBeyond =>
      rw [Square.ofPlane_of_beyond hWalled level (by omega)]
      exact ⟨Square.wallTrail level,
        fun _ => Square.mem_parts_of_mem_wallTrail,
        lays_wall arena hMax⟩
  | case2 x y hWithin =>
      rw [Square.ofPlane_site]
      refine ⟨[⟨0, .leaf (Lattice.plane lattice x y)⟩],
        fun _ hPiece => hPiece, ?_⟩
      intro later hTraced hLater
      exact Gathers.bind_lift
        (hReadable.cellAt_eq (by omega) (by omega))
        (lays_leaf arena _ later hTraced hLater)
  | case3 x y hWithin level half ihSw ihSe ihNw ihNe =>
      have hBelow : level ≤ maxLevel := Nat.le_of_succ_le hMax
      rcases ihSw hBelow with ⟨tsw, hPartsSw, hSw⟩
      rcases ihSe hBelow with ⟨tse, hPartsSe, hSe⟩
      rcases ihNw hBelow with ⟨tnw, hPartsNw, hNw⟩
      rcases ihNe hBelow with ⟨tne, hPartsNe, hNe⟩
      let squares :=
        Square.quadAt level (Lattice.plane lattice) x y
      rw [← Square.ofQuad_quadAt]
      refine ⟨tsw ++ (tse ++ (tnw ++ (tne ++
        [⟨level + 1, Square.ofQuad squares⟩]))), ?_, ?_⟩
      · intro piece hPiece
        have hParts :
            (Square.ofQuad squares).parts =
              squares.sw.parts ++ (squares.se.parts ++
                (squares.nw.parts ++ (squares.ne.parts ++
                  [⟨level + 1, Square.ofQuad squares⟩]))) :=
          rfl
        rw [hParts]
        simp only [List.mem_append] at hPiece ⊢
        exact hPiece.imp (hPartsSw piece)
          (Or.imp (hPartsSe piece)
            (Or.imp (hPartsNw piece)
              (Or.imp (hPartsNe piece) id)))
      · intro later hTraced hLater
        refine gaining.bind_four squares
          ⟨tsw, tse, tnw, tne⟩ hTraced hLater hSw hSe hNw
          hNe ?_
        intro ids after hAfter hIds
        exact gaining.yields_node hAfter hIds hMax

end Building

end LatticeGas

------------------------------------------------------------
-- Trackers That Share Nodes
------------------------------------------------------------

namespace LatticeGas

/- The square of a level that a lattice is seeded in. -/
def Lattice.square
    {L : Type}
    [Lattice L]
    (lattice : L)
    (level : Nat) : Square level :=
  Square.ofPlane level (Lattice.plane lattice)

/- The different squares that a square is made of. -/
def Square.pieces
    {level : Nat}
    (square : Square level) : Set Piece :=
  { piece | piece ∈ square.parts }

/- A list of parts without repetitions is not longer. -/
theorem Square.length_le_encard_pieces
    {level : Nat}
    {square : Square level}
    {pieces : List Piece}
    (hNodup : pieces.Nodup)
    (hParts : ∀ piece ∈ pieces, piece ∈ square.parts) :
    (pieces.length : ℕ∞) ≤ square.pieces.encard := by
  have hCount :
      ({ piece | piece ∈ pieces } : Set Piece).encard =
        pieces.length :=
    Arena.encard_of_nodup hNodup fun _ => Iff.rfl
  rw [← hCount]
  exact Set.encard_le_encard fun piece hPiece =>
    hParts piece hPiece

namespace Tracker

open Arena Building

variable {L : Type}
variable [Lattice L]
variable {lattice : L}
variable {level : Nat}
variable {config : Config}

/- A seed gathers the parts of the lattice's square. -/
theorem exists_gathers_seed
    (hReadable : Lattice.Readable lattice)
    (hMax : level ≤ maxLevel)
    (memoize : Bool) :
    ∃ trail,
      (∀ piece ∈ trail,
        piece ∈ (Lattice.square lattice level).parts) ∧
      Gathers (seed lattice level 0 0) (new true memoize)
        trail fun id after =>
          after.Denotes id (Lattice.square lattice level) := by
  rcases exists_lays_seed hReadable (new true memoize) hMax 0
      0 with ⟨trail, hParts, hLays⟩
  have hSquare :
      Square.ofPlane level
          ((Lattice.plane lattice).shift (0 : Nat) (0 : Nat)) =
        Lattice.square lattice level := by
    change Square.ofPlane level
      ((Lattice.plane lattice).shift 0 0) = _
    rw [Plane.shift_zero]
    rfl
  rw [hSquare] at hParts hLays
  exact ⟨trail, hParts, hLays _ (traced_new true memoize)
    (Extends.refl _)⟩

/-
  With shared nodes a new tracker has one for each square that
  the lattice's square is made of, or there are more of these
  than there are numbers.
-/
theorem ofLattice_shares
    (hShares : config.intern = true)
    (hReadable : Lattice.Readable lattice)
    (hMax : level ≤ maxLevel) :
    Barring
      (fun _ =>
        (nodeLimit : ℕ∞) <
          (Lattice.square lattice level).pieces.encard)
      (fun _ =>
        (Lattice.square lattice level).pieces.encard ≤
          (nodeLimit : ℕ∞))
      (ofLattice lattice level config) := by
  rcases exists_gathers_seed hReadable hMax config.memoize
    with ⟨trail, hParts, hGathers⟩
  rw [ofLattice_eq, hShares]
  refine Barring.map (Barring.imp hGathers ?_
    fun _ _ hResult => hResult) ?_
  · rintro fault ⟨-, hOverflows⟩
    have hLong :=
      hOverflows rfl [] (lists_new true config.memoize)
    have hPieces :=
      Square.length_le_encard_pieces
        (Piece.nodup_noteAll List.nodup_nil trail)
        (fun piece hMem =>
          hParts piece ((Piece.mem_noteAll hMem).resolve_left
            List.not_mem_nil))
    exact (Nat.cast_lt.mpr hLong).trans_le hPieces
  · rintro ⟨root, arena⟩ ⟨hTraced, hGains, hRoot⟩
    have hArena := hTraced.sound.wellFormed
    have hHeld :
        (Lattice.square lattice level).pieces ⊆
          arena.pieces :=
      fun piece hPiece => hRoot.holds_parts piece hPiece
    refine (Set.encard_le_encard hHeld).trans ?_
    rw [hArena.encard_pieces hGains.interning_eq]
    exact Nat.cast_le.mpr hArena.size_le

end Tracker

end LatticeGas

------------------------------------------------------------
-- Trackers That Do Not Share Nodes
------------------------------------------------------------

namespace LatticeGas

namespace Tracker

open Arena Building

variable {L : Type}
variable [Lattice L]
variable {lattice : L}
variable {side level : Nat}
variable {config : Config}

/- A larger square has no fewer parts in the lattice. -/
theorem seedNodes_le_of_le
    (hSide : 0 < side)
    {higher : Nat}
    (hLevel : level ≤ higher) :
    seedNodes side level 0 0 ≤ seedNodes side higher 0 0 := by
  induction hLevel with
  | refl => exact Nat.le_refl _
  | @step higher _ ih =>
      rw [seedNodes_succ (by omega)]
      omega

/-
  Without shared nodes a new tracker has one for each part of
  the square that begins in the lattice, at least.
-/
theorem seedNodes_le_of_ofLattice
    (hPlain : config.intern = false)
    {built : Tracker}
    (hReadable : Lattice.Readable lattice)
    (hLevel : Lattice.side lattice ≤ sideOfLevel level)
    (hMax : level ≤ maxLevel)
    (hBuild : ofLattice lattice level config = .ok built) :
    seedNodes (Lattice.side lattice) level 0 0 ≤
      nodeLimit := by
  have hSound :=
    ((barring_ofLattice config hReadable hLevel hMax
      (Nat.le_refl level)).of_ok hBuild).1.sound
  rw [ofLattice_eq] at hBuild
  rcases answered_of_map hBuild with
    ⟨⟨root, arena⟩, hSeed, rfl⟩
  have hTakes := (takes_seed lattice level 0 0 _ root arena
    hPlain hSeed).2
  have hSize := hSound.wellFormed.size_le
  change 0 + _ ≤ arena.size at hTakes
  simp only at hSize
  omega

/- The greatest side for which there are enough numbers. -/
def greatestSide : Nat :=
  56755

/- From the next side on there are too many parts. -/
theorem nodeLimit_lt_seedNodes
    (hSide : greatestSide < side) :
    nodeLimit < seedNodes side (seedLevel side) 0 0 := by
  have hFirst :
      nodeLimit < seedNodes (greatestSide + 1) 16 0 0 := by
    decide
  have hLevel : 16 ≤ seedLevel side := by
    by_contra hLess
    have hFits : side ≤ sideOfLevel 15 :=
      (seedLevel_le_iff side 15).mp (by omega)
    have hSmall : sideOfLevel 15 ≤ greatestSide := by decide
    omega
  have hMore := seedNodes_mono hSide 16 0 0
  have hHigher :=
    seedNodes_le_of_le (by omega : 0 < side) hLevel
  change seedNodes (greatestSide + 1) 16 0 0 ≤ _ at hMore
  omega

/- All smaller ones have few enough, also with their walls. -/
theorem buildNodes_le_nodeLimit
    (hPos : 0 < side)
    (hSide : side ≤ greatestSide) :
    buildNodes side (seedLevel side) ≤ nodeLimit := by
  have hLast :
      seedNodes greatestSide 16 0 0 + 17 ≤ nodeLimit := by
    decide
  have hLevel : seedLevel side ≤ 16 := by
    rw [seedLevel_le_iff]
    exact hSide.trans (by decide)
  have hMore := seedNodes_mono hSide 16 0 0
  have hHigher := seedNodes_le_of_le hPos hLevel
  unfold buildNodes
  omega

end Tracker

end LatticeGas

------------------------------------------------------------
-- Lattices with Too Many Nodes
------------------------------------------------------------

namespace LatticeGas

namespace Tracker

variable {L : Type}
variable [Lattice L]
variable {lattice : L}

/-
  There are fewer numbers than a new tracker of the lattice
  takes. If nodes are shared, it takes one for each of the
  different squares in the lattice's square.
-/
def Overfull
    (lattice : L)
    (config : Config) : Prop :=
  if config.intern = true then
    (nodeLimit : ℕ∞) <
      (Lattice.square lattice
        (seedLevel (Lattice.side lattice))).pieces.encard
  else
    greatestSide < Lattice.side lattice

/- Whether there is one decides whether it is made. -/
theorem barring_overfull
    (config : Config)
    (hReadable : Lattice.Readable lattice)
    (hPos : 0 < Lattice.side lattice)
    (hMax :
      seedLevel (Lattice.side lattice) ≤ maxSeedLevel) :
    Barring
      (fun fault =>
        fault = .exhausted ∧ Overfull lattice config)
      (fun _ => ¬ Overfull lattice config)
      (ofLattice lattice
        (seedLevel (Lattice.side lattice)) config) := by
  have hLevel := le_sideOfLevel_seedLevel
    (Lattice.side lattice)
  have hBelow : seedLevel (Lattice.side lattice) ≤ maxLevel :=
    Nat.le_trans hMax (by decide)
  have hTakes :=
    ofLattice_takes config hReadable hLevel hBelow
  unfold Overfull
  by_cases hShares : config.intern = true
  · simp only [if_pos hShares]
    have hPieces :=
      ofLattice_shares hShares hReadable hBelow
    refine (hTakes.both hPieces).imp ?_ ?_
    · rintro fault ⟨⟨hFault, -⟩, hMore⟩
      exact ⟨hFault, hMore⟩
    · rintro built - ⟨-, hEnough⟩
      exact not_lt.mpr hEnough
  · simp only [if_neg hShares]
    have hPlain := Bool.eq_false_iff.mpr hShares
    refine hTakes.imp ?_ ?_
    · rintro fault ⟨hFault, hLacks⟩
      refine ⟨hFault, ?_⟩
      by_contra hSmall
      have hEnough :=
        buildNodes_le_nodeLimit hPos (Nat.not_lt.mp hSmall)
      omega
    · intro built hBuild _ hLarge
      have hEnough := seedNodes_le_of_ofLattice hPlain
        hReadable hLevel hBelow hBuild
      have hMany := nodeLimit_lt_seedNodes hLarge
      omega

/- A lattice that is not refused is built, or is overfull. -/
theorem build_cases_of_overfull
    (config : Config)
    (hReadable : Lattice.Readable lattice)
    (hPos : 0 < Lattice.side lattice)
    (hMax :
      seedLevel (Lattice.side lattice) ≤ maxSeedLevel) :
    (Overfull lattice config ∧
        build lattice config =
          .error (.broken .exhausted)) ∨
      ¬ Overfull lattice config ∧
        ∃ built, build lattice config = .ok built := by
  have hBarring :=
    barring_overfull config hReadable hPos hMax
  unfold build
  rw [if_neg (Nat.pos_iff_ne_zero.mp hPos),
    if_neg (Nat.not_lt.mpr hMax)]
  rcases hBarring.cases with
    ⟨fault, hBuild, rfl, hMore⟩ | ⟨built, hBuild, hEnough⟩
  · left
    rw [hBuild]
    exact ⟨hMore, rfl⟩
  · right
    rw [hBuild]
    exact ⟨hEnough, built, rfl⟩

end Tracker

end LatticeGas

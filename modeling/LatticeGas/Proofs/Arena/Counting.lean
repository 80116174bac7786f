import LatticeGas.Arena.Stats
import LatticeGas.Proofs.Arena.Pieces
import Mathlib.Data.Set.Card

/-
  This file counts the nodes of an arena, in all and by their
  level. Where nodes are shared, these are the numbers of the
  different squares.

  Key definitions include:
    * `Arena.levels`
    * `Arena.pieces`

  Key theorems include:
    * `Arena.lt_size_foldl_countLevel_iff`
    * `Arena.perLevel_getD`
    * `Arena.WellFormed.encard_pieces`
    * `Arena.WellFormed.encard_pieces_of_level`
-/

------------------------------------------------------------
-- Counting by Level
------------------------------------------------------------

namespace LatticeGas

namespace Arena

/- One more node of a level counts for that level only. -/
theorem countLevel_getD
    (counts : Array Nat)
    (level wanted : Nat) :
    (countLevel counts level).getD wanted 0 =
      counts.getD wanted 0 +
        if level = wanted then 1 else 0 := by
  simp only [countLevel, Array.getD_eq_getD_getElem?,
    Array.getElem?_modify, Array.getElem?_append,
    Array.getElem?_replicate]
  by_cases hSame : level = wanted
  · subst hSame
    by_cases hOld : level < counts.size
    · simp [hOld]
    · have hNew :
          level - counts.size < level + 1 - counts.size := by
        omega
      simp [hOld, hNew]
  · by_cases hOld : wanted < counts.size
    · simp [hSame, hOld]
    · have hPad :
          (if wanted - counts.size < level + 1 - counts.size
            then some 0 else none).getD 0 = 0 := by
        split <;> rfl
      simp [hSame, hOld, hPad]

/- Each level is counted as often as it is met. -/
theorem foldl_countLevel_getD
    (levels : List Nat)
    (counts : Array Nat)
    (wanted : Nat) :
    (levels.foldl countLevel counts).getD wanted 0 =
      counts.getD wanted 0 + levels.count wanted := by
  induction levels generalizing counts with
  | nil => simp
  | cons level levels ih =>
      rw [List.foldl_cons, ih, countLevel_getD,
        List.count_cons]
      simp only [beq_iff_eq]
      omega

/- Counting a level makes room for it, if there is none. -/
theorem size_countLevel
    (counts : Array Nat)
    (level : Nat) :
    (countLevel counts level).size =
      max counts.size (level + 1) := by
  simp only [countLevel, Array.size_modify,
    Array.size_append, Array.size_replicate]
  omega

/- There is room up to the highest level that was counted. -/
theorem lt_size_foldl_countLevel_iff
    (levels : List Nat)
    (counts : Array Nat)
    (wanted : Nat) :
    wanted < (levels.foldl countLevel counts).size ↔
      wanted < counts.size ∨
        ∃ level ∈ levels, wanted ≤ level := by
  induction levels generalizing counts with
  | nil => simp
  | cons level levels ih =>
      rw [List.foldl_cons, ih, size_countLevel]
      simp only [List.exists_mem_cons_iff, lt_sup_iff,
        Nat.lt_succ_iff, or_assoc]

/- The levels of the nodes, in the order of their numbers. -/
def levels (arena : Arena) : List Nat :=
  arena.entries.toList.map Entry.level

theorem perLevel_eq_foldl
    (arena : Arena) :
    arena.perLevel = arena.levels.foldl countLevel #[] := by
  rw [levels, List.foldl_map, Array.foldl_toList]
  rfl

theorem perLevel_getD
    (arena : Arena)
    (wanted : Nat) :
    arena.perLevel.getD wanted 0 =
      arena.levels.count wanted := by
  rw [perLevel_eq_foldl, foldl_countLevel_getD]
  simp

end Arena

end LatticeGas

------------------------------------------------------------
-- Counting Squares
------------------------------------------------------------

namespace LatticeGas

namespace Arena

/- The squares for which the nodes of an arena stand. -/
def pieces (arena : Arena) : Set Piece :=
  { piece | arena.Holds piece }

variable {arena : Arena}

/- Entries in a list that come only once are counted by it. -/
theorem encard_of_nodup
    {pieces : List Piece}
    (hNodup : pieces.Nodup)
    {held : Set Piece}
    (hHeld : ∀ piece, piece ∈ held ↔ piece ∈ pieces) :
    held.encard = pieces.length := by
  have hSet : held = (pieces.toFinset : Set Piece) := by
    ext piece
    rw [hHeld, List.coe_toFinset]
    rfl
  rw [hSet, Set.encard_coe_eq_coe_finsetCard,
    List.toFinset_card_of_nodup hNodup]

/- The levels of the pieces are those of the nodes. -/
theorem Lists.levels_eq
    {pieces : List Piece}
    (hLists : arena.Lists pieces) :
    pieces.map Piece.level = arena.levels := by
  unfold levels
  apply List.ext_getElem?
  intro id
  have hToList :
      arena.entries.toList[id]? = arena.entries[id]? :=
    Array.getElem?_toList
  rw [List.getElem?_map, List.getElem?_map, hToList]
  cases hFound : pieces[id]? with
  | none =>
      have hLength := List.getElem?_eq_none_iff.mp hFound
      rw [hLists.length_eq] at hLength
      rw [Array.getElem?_eq_none hLength]
      rfl
  | some piece =>
      rcases (hLists.denotes id piece hFound).hasLevel with
        ⟨entry, hEntry, hLevel⟩
      rw [hEntry, Option.map_some, Option.map_some, hLevel]

/- An arena that shares nodes has one for each square. -/
theorem WellFormed.encard_pieces
    (hArena : arena.WellFormed)
    (hInterning : arena.interning = true) :
    arena.pieces.encard = arena.size := by
  rcases hArena.exists_lists with ⟨listed, hLists⟩
  rw [← hLists.length_eq]
  exact encard_of_nodup (hLists.nodup hArena hInterning)
    hLists.holds_iff

/- And it has one for each square of a level. -/
theorem WellFormed.encard_pieces_of_level
    (hArena : arena.WellFormed)
    (hInterning : arena.interning = true)
    (level : Nat) :
    { piece ∈ arena.pieces | piece.level = level }.encard =
      arena.perLevel.getD level 0 := by
  rcases hArena.exists_lists with ⟨listed, hLists⟩
  have hNodup := hLists.nodup hArena hInterning
  have hHeld :
      ∀ piece,
        piece ∈ { piece ∈ arena.pieces |
            piece.level = level } ↔
          piece ∈ listed.filter fun piece =>
            piece.level == level := by
    intro piece
    rw [List.mem_filter, beq_iff_eq, ← hLists.holds_iff]
    rfl
  rw [encard_of_nodup (hNodup.filter _) hHeld, perLevel_getD,
    ← hLists.levels_eq, List.count, List.countP_map,
    List.countP_eq_length_filter]
  rfl

end Arena

end LatticeGas

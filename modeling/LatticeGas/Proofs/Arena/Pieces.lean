import LatticeGas.Proofs.Arena.Invariant
import Mathlib.Data.List.Nodup
import Mathlib.Data.List.Perm.Subperm

/-
  This file follows the squares of an arena in the order of
  its nodes. An arena that shares nodes has every square once,
  so the order of its squares determines all of its nodes.

  Key definitions include:
    * `Piece`
    * `Piece.noteAll`
    * `Square.parts`
    * `Arena.Holds`
    * `Arena.Names`
    * `Arena.Lists`

  Key theorems include:
    * `Arena.Denotes.holds_parts`
    * `Arena.Lists.holds_iff`
    * `Arena.WellFormed.length_le_size`
    * `Arena.WellFormed.id_eq`
    * `Arena.WellFormed.not_holds_of_new`
    * `Arena.Lists.entries_eq`
-/

------------------------------------------------------------
-- Pieces
------------------------------------------------------------

namespace LatticeGas

/- A square of any level. -/
structure Piece where
  level : Nat
  square : Square level
  deriving DecidableEq

namespace Piece

/- Put a piece behind the others if it is a new one. -/
def note
    (pieces : List Piece)
    (piece : Piece) : List Piece :=
  if piece ∈ pieces then pieces else pieces ++ [piece]

/- Put several pieces behind the others, in order. -/
def noteAll (pieces trail : List Piece) : List Piece :=
  trail.foldl note pieces

theorem note_of_mem
    {pieces : List Piece}
    {piece : Piece}
    (hMem : piece ∈ pieces) :
    note pieces piece = pieces :=
  if_pos hMem

theorem noteAll_append
    (pieces first rest : List Piece) :
    noteAll pieces (first ++ rest) =
      noteAll (noteAll pieces first) rest :=
  List.foldl_append

/- Nothing is lost when more pieces are put behind. -/
theorem length_le_noteAll
    (pieces trail : List Piece) :
    pieces.length ≤ (noteAll pieces trail).length := by
  induction trail generalizing pieces with
  | nil => exact Nat.le_refl _
  | cons piece trail ih =>
      refine Nat.le_trans ?_ (ih (note pieces piece))
      unfold note
      split
      · exact Nat.le_refl _
      · simp

theorem nodup_noteAll
    {pieces : List Piece}
    (hPieces : pieces.Nodup)
    (trail : List Piece) :
    (noteAll pieces trail).Nodup := by
  induction trail generalizing pieces with
  | nil => exact hPieces
  | cons piece trail ih =>
      change (noteAll (note pieces piece) trail).Nodup
      apply ih
      unfold note
      split
      · exact hPieces
      · next hNew =>
          rw [← List.concat_eq_append]
          exact hPieces.concat hNew

theorem mem_noteAll
    {pieces trail : List Piece}
    {piece : Piece}
    (hMem : piece ∈ noteAll pieces trail) :
    piece ∈ pieces ∨ piece ∈ trail := by
  induction trail generalizing pieces with
  | nil => exact Or.inl hMem
  | cons first trail ih =>
      rcases ih hMem with hOld | hRest
      · unfold note at hOld
        split at hOld
        · exact Or.inl hOld
        · simp only [List.mem_append,
            List.mem_singleton] at hOld
          rcases hOld with hOld | rfl
          · exact Or.inl hOld
          · exact Or.inr (by simp)
      · exact Or.inr (by simp [hRest])

/- Pieces that are all known already change nothing. -/
theorem noteAll_of_subset
    {pieces trail : List Piece}
    (hTrail : ∀ piece ∈ trail, piece ∈ pieces) :
    noteAll pieces trail = pieces := by
  induction trail with
  | nil => rfl
  | cons piece trail ih =>
      have hPiece : piece ∈ pieces := hTrail piece (by simp)
      have hRest : ∀ other ∈ trail, other ∈ pieces :=
        fun other hOther => hTrail other (by simp [hOther])
      change noteAll (note pieces piece) trail = pieces
      rw [note_of_mem hPiece, ih hRest]

end Piece

namespace Square

/-
  A square, its quadrants, and so on down to its cells. All
  quadrants come before their square.
-/
def parts : {level : Nat} → Square level → List Piece
| _, .leaf cell => [⟨0, .leaf cell⟩]
| _, .node sw se nw ne =>
    sw.parts ++ (se.parts ++ (nw.parts ++ (ne.parts ++
      [⟨_, .node sw se nw ne⟩])))

end Square

end LatticeGas

------------------------------------------------------------
-- Pieces of Arenas
------------------------------------------------------------

namespace LatticeGas

namespace Arena

/- Some node of the arena stands for the piece. -/
def Holds
    (arena : Arena)
    (piece : Piece) : Prop :=
  ∃ id, arena.Denotes id piece.square

/-
  A node with the entry would stand for the piece. Its
  quadrants are there, and it is not too deep.
-/
def Names
    (arena : Arena) : Entry → Piece → Prop
| .leaf cell, piece => piece = ⟨0, .leaf cell⟩
| .node level ids, piece =>
    ∃ (below : Nat) (squares : Quad (Square below)),
      level = below + 1 ∧ below < maxLevel ∧
        arena.DenotesQuad ids squares ∧
          piece = ⟨below + 1, Square.ofQuad squares⟩

/- The nodes of the arena stand for the pieces in order. -/
structure Lists
    (arena : Arena)
    (pieces : List Piece) : Prop where
  length_eq : pieces.length = arena.size
  denotes :
    ∀ (id : NodeId) (piece : Piece),
      pieces[id]? = some piece →
        arena.Denotes id piece.square

variable {arena before after left right : Arena}
variable {id other : NodeId}
variable {level : Nat}
variable {pieces : List Piece}

theorem names_leaf
    (arena : Arena)
    (cell : Cell) :
    arena.Names (.leaf cell) ⟨0, .leaf cell⟩ :=
  rfl

theorem DenotesQuad.names
    {ids : Quad NodeId}
    {squares : Quad (Square level)}
    (hQuad : arena.DenotesQuad ids squares)
    (hMax : level < maxLevel) :
    arena.Names (.node (level + 1) ids)
      ⟨level + 1, Square.ofQuad squares⟩ :=
  ⟨level, squares, rfl, hMax, hQuad, rfl⟩

/- An entry that names a piece may be added. -/
theorem Names.accepts
    {entry : Entry}
    {piece : Piece}
    (hNames : arena.Names entry piece) :
    arena.Accepts entry := by
  cases entry with
  | leaf cell => trivial
  | node level ids =>
      rcases hNames with ⟨below, squares, rfl, hMax, hIds, -⟩
      refine ⟨below, rfl, hMax,
        Quad.forall_mem_toList.mpr ?_⟩
      exact ⟨hIds.sw.hasLevel, hIds.se.hasLevel,
        hIds.nw.hasLevel, hIds.ne.hasLevel⟩

/- Its node stands for the piece from then on. -/
theorem Names.denotes
    {entry : Entry}
    {piece : Piece}
    (hNames : before.Names entry piece)
    (hExtends : Extends before after)
    (hEntry : after.entries[id]? = some entry) :
    after.Denotes id piece.square := by
  cases entry with
  | leaf cell =>
      obtain rfl : piece = ⟨0, .leaf cell⟩ := hNames
      exact (denotes_leaf_iff after id cell).mpr hEntry
  | node level ids =>
      rcases hNames with
        ⟨below, squares, rfl, -, hIds, rfl⟩
      rw [denotes_succ_iff, Square.quadrants_ofQuad]
      exact ⟨ids, hEntry, hIds.of_extends hExtends⟩

theorem Denotes.holds
    {square : Square level}
    (hSquare : arena.Denotes id square) :
    arena.Holds ⟨level, square⟩ :=
  ⟨id, hSquare⟩

theorem Holds.of_extends
    {piece : Piece}
    (hHolds : before.Holds piece)
    (hExtends : Extends before after) :
    after.Holds piece := by
  rcases hHolds with ⟨id, hSquare⟩
  exact ⟨id, hSquare.of_extends hExtends⟩

/- A node stands for one piece only. -/
theorem Denotes.piece_eq
    {first second : Piece}
    (hFirst : arena.Denotes id first.square)
    (hSecond : arena.Denotes id second.square) :
    first = second := by
  rcases first with ⟨level, square⟩
  rcases second with ⟨level', square'⟩
  obtain rfl : level = level' :=
    hFirst.hasLevel.unique hSecond.hasLevel
  have hSquare : square = square' := hFirst.unique hSecond
  rw [hSquare]

/- A node is found in the list at its own number. -/
theorem Lists.getElem?_eq
    (hLists : arena.Lists pieces)
    {piece : Piece}
    (hSquare : arena.Denotes id piece.square) :
    pieces[id]? = some piece := by
  have hId : id < pieces.length := by
    rw [hLists.length_eq]
    exact hSquare.hasLevel.lt_size
  have hFound := List.getElem?_eq_getElem hId
  rw [hFound,
    (hLists.denotes id _ hFound).piece_eq hSquare]

/- The pieces that are held are those of the list. -/
theorem Lists.holds_iff
    (hLists : arena.Lists pieces)
    (piece : Piece) :
    arena.Holds piece ↔ piece ∈ pieces := by
  rw [List.mem_iff_getElem?]
  constructor
  · intro hHolds
    rcases hHolds with ⟨id, hSquare⟩
    exact ⟨id, hLists.getElem?_eq hSquare⟩
  · intro hMem
    rcases hMem with ⟨id, hFound⟩
    exact ⟨id, hLists.denotes id piece hFound⟩

theorem lists_new
    (interning memoizing : Bool) :
    (new interning memoizing).Lists [] := by
  constructor
  · rfl
  · intro id piece hFound
    cases hFound

/- The pieces of a well-formed arena can be listed. -/
theorem WellFormed.exists_lists
    (hArena : arena.WellFormed) :
    ∃ pieces, arena.Lists pieces := by
  have hUpTo :
      ∀ count ≤ arena.size, ∃ pieces : List Piece,
        pieces.length = count ∧
          ∀ (id : Nat) (piece : Piece),
            pieces[id]? = some piece →
              arena.Denotes id piece.square := by
    intro count hCount
    induction count with
    | zero => exact ⟨[], rfl, fun id piece h => by cases h⟩
    | succ count ih =>
        rcases ih (by omega) with ⟨pieces, hLength, hOld⟩
        have hEntry := Array.getElem?_eq_getElem hCount
        rcases hArena.exists_denotes ⟨_, hEntry, rfl⟩ with
          ⟨square, hSquare⟩
        refine ⟨pieces ++ [⟨_, square⟩], by simp [hLength],
          ?_⟩
        intro id piece hFound
        rw [List.getElem?_append] at hFound
        split at hFound
        · exact hOld id piece hFound
        · next hLast =>
            rw [List.getElem?_singleton] at hFound
            split at hFound
            · next hZero =>
                obtain rfl : id = count := by omega
                cases hFound
                exact hSquare
            · cases hFound
  rcases hUpTo arena.size (Nat.le_refl _) with
    ⟨pieces, hLength, hDenotes⟩
  exact ⟨pieces, hLength, hDenotes⟩

/- With a square all of its parts are held. -/
theorem Denotes.holds_parts
    {square : Square level}
    (hSquare : arena.Denotes id square) :
    ∀ piece ∈ square.parts, arena.Holds piece := by
  induction square generalizing id with
  | leaf cell =>
      intro piece hPiece
      obtain rfl := List.mem_singleton.mp hPiece
      exact hSquare.holds
  | node sw se nw ne ihSw ihSe ihNw ihNe =>
      rcases (denotes_succ_iff arena id _).mp hSquare with
        ⟨children, -, hSw, hSe, hNw, hNe⟩
      intro piece hPiece
      simp only [Square.parts, List.mem_append,
        List.mem_singleton] at hPiece
      rcases hPiece with
        hPiece | hPiece | hPiece | hPiece | rfl
      · exact ihSw hSw piece hPiece
      · exact ihSe hSe piece hPiece
      · exact ihNw hNw piece hPiece
      · exact ihNe hNe piece hPiece
      · exact hSquare.holds

end Arena

end LatticeGas

------------------------------------------------------------
-- Shared Nodes
------------------------------------------------------------

namespace LatticeGas

namespace Arena

variable {arena left right : Arena}
variable {id other : NodeId}
variable {level : Nat}
variable {pieces : List Piece}

/- Pieces that are different have different nodes. -/
theorem WellFormed.length_le_size
    (hArena : arena.WellFormed)
    (hPieces : pieces.Nodup)
    (hHolds : ∀ piece ∈ pieces, arena.Holds piece) :
    pieces.length ≤ arena.size := by
  rcases hArena.exists_lists with ⟨all, hLists⟩
  have hSubset : pieces ⊆ all :=
    fun piece hMem =>
      (hLists.holds_iff piece).mp (hHolds piece hMem)
  rw [← hLists.length_eq]
  exact (hPieces.subperm hSubset).length_le

/- Two nodes with one entry are the same if it is shared. -/
theorem WellFormed.id_eq_of_entry
    (hArena : arena.WellFormed)
    (hInterning : arena.interning = true)
    {entry : Entry}
    (hId : arena.entries[id]? = some entry)
    (hOther : arena.entries[other]? = some entry) :
    id = other := by
  have hFound :=
    (hArena.index_iff entry id).mpr ⟨hInterning, hId⟩
  have hFoundOther :=
    (hArena.index_iff entry other).mpr ⟨hInterning, hOther⟩
  rw [hFound] at hFoundOther
  exact Option.some.inj hFoundOther

/- A shared square has one node only. -/
theorem WellFormed.id_eq
    (hArena : arena.WellFormed)
    (hInterning : arena.interning = true)
    {square : Square level}
    (hId : arena.Denotes id square)
    (hOther : arena.Denotes other square) :
    id = other := by
  induction square generalizing id other with
  | leaf cell =>
      rw [denotes_leaf_iff] at hId hOther
      exact hArena.id_eq_of_entry hInterning hId hOther
  | node sw se nw ne ihSw ihSe ihNw ihNe =>
      rcases (denotes_succ_iff arena id _).mp hId with
        ⟨⟨a, b, c, d⟩, hEntry, hSw, hSe, hNw, hNe⟩
      rcases (denotes_succ_iff arena other _).mp hOther with
        ⟨⟨a', b', c', d'⟩, hEntry', hSw', hSe', hNw', hNe'⟩
      obtain rfl : a = a' := ihSw hSw hSw'
      obtain rfl : b = b' := ihSe hSe hSe'
      obtain rfl : c = c' := ihNw hNw hNw'
      obtain rfl : d = d' := ihNe hNe hNe'
      exact hArena.id_eq_of_entry hInterning hEntry hEntry'

/- A shared square is found by its cell or quadrants. -/
theorem WellFormed.entry_eq_of_names
    (hArena : arena.WellFormed)
    (hInterning : arena.interning = true)
    {entry : Entry}
    {piece : Piece}
    (hNames : arena.Names entry piece)
    (hId : arena.Denotes id piece.square) :
    arena.entries[id]? = some entry := by
  cases entry with
  | leaf cell =>
      obtain rfl : piece = ⟨0, .leaf cell⟩ := hNames
      exact (denotes_leaf_iff arena id cell).mp hId
  | node level ids =>
      rcases hNames with
        ⟨below, squares, rfl, -, hIds, rfl⟩
      rcases (denotes_succ_iff arena id _).mp hId with
        ⟨ids', hEntry, hIds'⟩
      rw [Square.quadrants_ofQuad] at hIds'
      have hSame : ids' = ids := by
        rcases ids with ⟨a, b, c, d⟩
        rcases ids' with ⟨a', b', c', d'⟩
        obtain rfl : a' = a :=
          hArena.id_eq hInterning hIds'.sw hIds.sw
        obtain rfl : b' = b :=
          hArena.id_eq hInterning hIds'.se hIds.se
        obtain rfl : c' = c :=
          hArena.id_eq hInterning hIds'.nw hIds.nw
        obtain rfl : d' = d :=
          hArena.id_eq hInterning hIds'.ne hIds.ne
        rfl
      rw [hEntry, hSame]

/-
  Where nodes are shared, an entry that is not found names a
  square for which there is no node.
-/
theorem WellFormed.not_holds_of_new
    (hArena : arena.WellFormed)
    (hInterning : arena.interning = true)
    {entry : Entry}
    {piece : Piece}
    (hNames : arena.Names entry piece)
    (hNew :
      arena.interning = true → arena.index[entry]? = none) :
    ¬ arena.Holds piece := by
  rintro ⟨id, hId⟩
  have hEntry :=
    hArena.entry_eq_of_names hInterning hNames hId
  have hFound :=
    (hArena.index_iff entry id).mpr ⟨hInterning, hEntry⟩
  rw [hNew hInterning] at hFound
  cases hFound

/- So no piece of it is listed twice. -/
theorem Lists.nodup
    (hLists : arena.Lists pieces)
    (hArena : arena.WellFormed)
    (hInterning : arena.interning = true) :
    pieces.Nodup := by
  apply List.pairwise_iff_getElem.mpr
  intro i j hi hj hLess hSame
  have hFound := List.getElem?_eq_getElem hj
  have hFoundSame := List.getElem?_eq_getElem hi
  rw [hSame] at hFoundSame
  have hEqual := hArena.id_eq hInterning
    (hLists.denotes i _ hFoundSame)
    (hLists.denotes j _ hFound)
  exact Nat.ne_of_lt hLess hEqual

/- A square that is listed twice over has the same number. -/
theorem Lists.id_eq
    (hLeft : left.Lists pieces)
    (hRight : right.Lists pieces)
    (hArena : right.WellFormed)
    (hInterning : right.interning = true)
    {square : Square level}
    (hId : left.Denotes id square)
    (hOther : right.Denotes other square) :
    id = other := by
  have hPiece :
      left.Denotes id (Piece.mk level square).square :=
    hId
  have hFound := hLeft.getElem?_eq hPiece
  exact hArena.id_eq hInterning (hRight.denotes id _ hFound)
    hOther

/-
  Two arenas that share nodes and list the same pieces have
  the same nodes. Their quadrants are found by their pieces.
-/
theorem Lists.entries_eq
    (hLeft : left.Lists pieces)
    (hRight : right.Lists pieces)
    (hArena : right.WellFormed)
    (hInterning : right.interning = true) :
    left.entries = right.entries := by
  apply Array.ext_getElem?
  intro id
  cases hFound : pieces[id]? with
  | none =>
      have hLength := List.getElem?_eq_none_iff.mp hFound
      rw [Array.getElem?_eq_none, Array.getElem?_eq_none]
      · rw [hRight.length_eq] at hLength
        exact hLength
      · rw [hLeft.length_eq] at hLength
        exact hLength
  | some piece =>
      have hId := hLeft.denotes id piece hFound
      have hSame := hRight.denotes id piece hFound
      rcases piece with ⟨level, square⟩
      cases square with
      | leaf cell =>
          rw [denotes_leaf_iff] at hId hSame
          rw [hId, hSame]
      | node sw se nw ne =>
          rcases (denotes_succ_iff left id _).mp hId with
            ⟨⟨a, b, c, d⟩, hEntry, hSw, hSe, hNw, hNe⟩
          rcases (denotes_succ_iff right id _).mp hSame with
            ⟨⟨a', b', c', d'⟩, hEntry', hSw', hSe', hNw',
              hNe'⟩
          -- Both entries name their quadrants by numbers,
          -- which the squares of the quadrants determine.
          obtain rfl : a = a' :=
            hLeft.id_eq hRight hArena hInterning hSw hSw'
          obtain rfl : b = b' :=
            hLeft.id_eq hRight hArena hInterning hSe hSe'
          obtain rfl : c = c' :=
            hLeft.id_eq hRight hArena hInterning hNw hNw'
          obtain rfl : d = d' :=
            hLeft.id_eq hRight hArena hInterning hNe hNe'
          rw [hEntry, hEntry']

end Arena

end LatticeGas

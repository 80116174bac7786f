import LatticeGas.Proofs.Arena.MacroStep
import LatticeGas.Proofs.Arena.Pieces

/-
  This file follows what a computation adds to an arena. The
  trail of a computation is the list of the squares for which
  it asks, in order. An arena that shares nodes gains those
  of them that are new. A remembered step has left its whole
  trail in the arena, so that taking it from memory and
  computing it again come to the same.

  Key definitions include:
    * `Square.trail`
    * `Arena.Gains`
    * `Arena.Overflows`
    * `Arena.Traced`

  Key theorems include:
    * `Arena.gains_of_holds`
    * `Arena.gains_push`
    * `Arena.Traced.setNext`
-/

------------------------------------------------------------
-- Trails of Macro Steps
------------------------------------------------------------

namespace LatticeGas

namespace Square

/-
  The squares that are built for the macro step of a square,
  in order and with repetitions: every window that has to be
  composed, all that is built for its step, and in the end
  the middle of the square.
-/
def trail : {level : Nat} → Square (level + 2) → List Piece
| 0, square =>
    let ticked := square.block.tickCentre
    [⟨0, .leaf ticked.sw⟩, ⟨0, .leaf ticked.se⟩,
      ⟨0, .leaf ticked.nw⟩, ⟨0, .leaf ticked.ne⟩,
      ⟨1, square.advance⟩]
| level + 1, square =>
    let inner := square.quadrants.map quadrants
    let step := fun window : Quad (Square (level + 1)) =>
      (ofQuad window).advance
    let given := fun window : Quad (Square (level + 1)) =>
      (ofQuad window).trail
    let composed := fun window : Quad (Square (level + 1)) =>
      ⟨level + 2, ofQuad window⟩ :: (ofQuad window).trail
    let sw := step inner.sw
    let s := step (Quad.acrossX inner.sw inner.se)
    let se := step inner.se
    let w := step (Quad.acrossY inner.sw inner.nw)
    let c := step (Quad.centre inner)
    let e := step (Quad.acrossY inner.se inner.ne)
    let nw := step inner.nw
    let n := step (Quad.acrossX inner.nw inner.ne)
    let ne := step inner.ne
    given inner.sw ++
      (composed (Quad.acrossX inner.sw inner.se) ++
      (given inner.se ++
      (composed (Quad.acrossY inner.sw inner.nw) ++
      (composed (Quad.centre inner) ++
      (composed (Quad.acrossY inner.se inner.ne) ++
      (given inner.nw ++
      (composed (Quad.acrossX inner.nw inner.ne) ++
      (given inner.ne ++
      (composed ⟨sw, s, w, c⟩ ++
      (composed ⟨s, se, c, e⟩ ++
      (composed ⟨w, c, nw, n⟩ ++
      (composed ⟨c, e, n, ne⟩ ++
      [⟨level + 2, square.advance⟩]))))))))))))

end Square

end LatticeGas

------------------------------------------------------------
-- What an Arena Gains
------------------------------------------------------------

namespace LatticeGas

namespace Arena

/-
  From one arena to the other, the pieces of a trail have
  been added. Where nodes are shared, the new ones among them
  come behind the nodes that were there, in order.
-/
structure Gains
    (before after : Arena)
    (trail : List Piece) : Prop where
  keeps : Extends before after
  interning_eq : after.interning = before.interning
  holds_iff :
    ∀ piece : Piece,
      after.Holds piece ↔
        before.Holds piece ∨ piece ∈ trail
  lists :
    before.interning = true →
      ∀ pieces : List Piece,
        before.Lists pieces →
          after.Lists (Piece.noteAll pieces trail)

variable {arena before after : Arena}
variable {level : Nat}
variable {trail : List Piece}

/- A trail that is there already need not be added. -/
theorem gains_of_holds
    (hTrail : ∀ piece ∈ trail, arena.Holds piece) :
    Gains arena arena trail := by
  refine ⟨Extends.refl arena, rfl, ?_, ?_⟩
  · intro piece
    constructor
    · exact Or.inl
    · intro hEither
      rcases hEither with hHolds | hMem
      · exact hHolds
      · exact hTrail piece hMem
  · intro _ pieces hLists
    rw [Piece.noteAll_of_subset fun piece hMem =>
      (hLists.holds_iff piece).mp (hTrail piece hMem)]
    exact hLists

theorem extends_of_entries_eq
    (hEntries : after.entries = before.entries) :
    Extends before after := by
  intro id entry hEntry
  rw [hEntries]
  exact hEntry

/- What the nodes stand for is told by the nodes alone. -/
theorem Lists.of_entries_eq
    {pieces : List Piece}
    (hLists : before.Lists pieces)
    (hEntries : after.entries = before.entries) :
    after.Lists pieces := by
  constructor
  · rw [size, hEntries]
    exact hLists.length_eq
  · intro id piece hFound
    exact (hLists.denotes id piece hFound).of_extends
      (extends_of_entries_eq hEntries)

/- Arenas with the same nodes differ by nothing. -/
theorem gains_of_entries_eq
    (hEntries : after.entries = before.entries)
    (hInterning : after.interning = before.interning) :
    Gains before after [] := by
  have hKeeps := extends_of_entries_eq hEntries
  have hBack := extends_of_entries_eq hEntries.symm
  refine ⟨hKeeps, hInterning, ?_, ?_⟩
  · intro piece
    constructor
    · exact fun hHolds => Or.inl (hHolds.of_extends hBack)
    · intro hEither
      rcases hEither with hHolds | hMem
      · exact hHolds.of_extends hKeeps
      · cases hMem
  · intro _ pieces hLists
    exact hLists.of_entries_eq hEntries

/- Trails are put together like the computations. -/
theorem Gains.trans
    {middle : Arena}
    {first rest : List Piece}
    (hFirst : Gains before middle first)
    (hRest : Gains middle after rest) :
    Gains before after (first ++ rest) := by
  refine ⟨hFirst.keeps.trans hRest.keeps,
    hRest.interning_eq.trans hFirst.interning_eq, ?_, ?_⟩
  · intro piece
    rw [hRest.holds_iff, hFirst.holds_iff, List.mem_append,
      or_assoc]
  · intro hInterning pieces hLists
    have hMiddle : middle.interning = true := by
      rw [hFirst.interning_eq, hInterning]
    rw [Piece.noteAll_append]
    exact hRest.lists hMiddle _
      (hFirst.lists hInterning pieces hLists)

/- All of a trail is there in the end. -/
theorem Gains.holds_of_mem
    (hGains : Gains before after trail) :
    ∀ piece ∈ trail, after.Holds piece :=
  fun piece hMem => (hGains.holds_iff piece).mpr (.inr hMem)

/- A node that is added goes to the end of the list. -/
theorem Lists.extended
    {pieces : List Piece}
    (hLists : arena.Lists pieces)
    {entry : Entry}
    {square : Square level}
    (hSquare :
      (arena.extended entry).Denotes arena.size square) :
    (arena.extended entry).Lists
      (pieces ++ [⟨level, square⟩]) := by
  constructor
  · change _ = (arena.entries.push entry).size
    rw [List.length_append, hLists.length_eq,
      Array.size_push]
    rfl
  · intro id piece hFound
    rw [List.getElem?_append] at hFound
    by_cases hOld : id < pieces.length
    · rw [if_pos hOld] at hFound
      exact (hLists.denotes id piece hFound).of_extends
        (extends_extended arena entry)
    · rw [if_neg hOld, List.getElem?_singleton,
        hLists.length_eq] at hFound
      rw [hLists.length_eq] at hOld
      split at hFound
      · next hZero =>
          have hId : id = arena.size := by
            exact Nat.le_antisymm
              (Nat.sub_eq_zero_iff_le.mp hZero)
              (Nat.le_of_not_lt hOld)
          cases hFound
          rw [hId]
          exact hSquare
      · cases hFound

/- The pieces after an addition are the old ones and one. -/
theorem holds_extended_iff
    (hArena : arena.WellFormed)
    {entry : Entry}
    {square : Square level}
    (hSquare :
      (arena.extended entry).Denotes arena.size square)
    (piece : Piece) :
    (arena.extended entry).Holds piece ↔
      arena.Holds piece ∨ piece ∈ [⟨level, square⟩] := by
  have hExtends := extends_extended arena entry
  rw [List.mem_singleton]
  constructor
  · intro hHolds
    rcases hHolds with ⟨id, hPiece⟩
    rcases hPiece.hasLevel with ⟨found, hFound, hLevel⟩
    rw [entries_extended_eq_some_iff] at hFound
    rcases hFound with hOld | ⟨rfl, -⟩
    · rcases hArena.exists_denotes ⟨found, hOld, hLevel⟩
        with ⟨kept, hKept⟩
      rw [← hPiece.unique (hKept.of_extends hExtends)]
        at hKept
      exact Or.inl ⟨id, hKept⟩
    · have hNew : (arena.extended entry).Denotes arena.size
          (Piece.mk level square).square := hSquare
      exact Or.inr (hPiece.piece_eq hNew)
  · intro hEither
    rcases hEither with hHolds | rfl
    · exact hHolds.of_extends hExtends
    · exact hSquare.holds

/-
  An entry that is found or added puts the piece that it names
  on the trail.
-/
theorem gains_push
    (hArena : arena.WellFormed)
    {entry : Entry}
    {piece : Piece}
    (hNames : arena.Names entry piece)
    {id : NodeId}
    (hPush : arena.push entry = .ok (id, after)) :
    Gains arena after [piece] := by
  have hSquare :=
    hNames.denotes (grows_push hPush).keeps
      (entries_push hPush hArena)
  cases pushed_of_push_eq_ok hPush with
  | found =>
      apply gains_of_holds
      intro other hMem
      obtain rfl := List.mem_singleton.mp hMem
      exact hSquare.holds
  | added hNew =>
      refine ⟨extends_extended arena entry, rfl,
        holds_extended_iff hArena hSquare, ?_⟩
      intro hInterning pieces hLists
      have hMissing : ¬ piece ∈ pieces := by
        rw [← hLists.holds_iff]
        exact hArena.not_holds_of_new hInterning hNames hNew
      have hNote :
          Piece.noteAll pieces [piece] = pieces ++ [piece] :=
        if_neg hMissing
      rw [hNote]
      exact hLists.extended hSquare

end Arena

end LatticeGas

------------------------------------------------------------
-- Trails That Do Not Fit
------------------------------------------------------------

namespace LatticeGas

namespace Arena

/-
  Where nodes are shared, there are more pieces with those of
  the trail than there are numbers for nodes.
-/
def Overflows
    (arena : Arena)
    (trail : List Piece) : Prop :=
  arena.interning = true →
    ∀ pieces : List Piece,
      arena.Lists pieces →
        nodeLimit < (Piece.noteAll pieces trail).length

variable {arena before after : Arena}
variable {trail rest : List Piece}

/- A longer trail does not fit any better. -/
theorem Overflows.append
    (hOverflows : arena.Overflows trail)
    (rest : List Piece) :
    arena.Overflows (trail ++ rest) := by
  intro hInterning pieces hLists
  rw [Piece.noteAll_append]
  exact Nat.lt_of_lt_of_le
    (hOverflows hInterning pieces hLists)
    (Piece.length_le_noteAll _ rest)

/- What did not fit behind a first trail does not fit. -/
theorem Gains.overflows
    (hGains : Gains before after trail)
    (hOverflows : after.Overflows rest) :
    before.Overflows (trail ++ rest) := by
  intro hInterning pieces hLists
  rw [Piece.noteAll_append]
  exact hOverflows (hGains.interning_eq.trans hInterning) _
    (hGains.lists hInterning pieces hLists)

/- A new piece does not fit when all numbers are used up. -/
theorem overflows_of_push_eq_error
    (hArena : arena.WellFormed)
    {entry : Entry}
    {piece : Piece}
    (hNames : arena.Names entry piece)
    {fault : Fault}
    (hPush : arena.push entry = .error fault) :
    fault.Exhaustion ∧ arena.Overflows [piece] := by
  have hPushed := pushed_push arena entry
  rw [hPush] at hPushed
  cases hPushed with
  | full hNew hFull =>
      refine ⟨rfl, ?_⟩
      intro hInterning pieces hLists
      have hMissing : ¬ piece ∈ pieces := by
        rw [← hLists.holds_iff]
        exact hArena.not_holds_of_new hInterning hNames hNew
      have hNote :
          Piece.noteAll pieces [piece] = pieces ++ [piece] :=
        if_neg hMissing
      rw [hNote, List.length_append, hLists.length_eq]
      exact Nat.lt_succ_of_le hFull

end Arena

end LatticeGas

------------------------------------------------------------
-- Traced Arenas
------------------------------------------------------------

namespace LatticeGas

namespace Arena

/-
  A sound arena in which the trail of every remembered step
  is there.
-/
structure Traced (arena : Arena) : Prop where
  sound : arena.Sound
  holds_trail :
    ∀ id next : NodeId,
      arena.steps[id]? = some (some next) →
        ∀ {level : Nat} (square : Square (level + 2)),
          arena.Denotes id square →
            ∀ piece ∈ square.trail, arena.Holds piece

variable {arena before after : Arena}
variable {id next : NodeId}
variable {level : Nat}

/- Nothing of a trail is lost while nodes are added. -/
theorem Traced.of_stepsFrom
    (hBefore : before.Traced)
    (hAfter : after.Sound)
    (hExtends : Extends before after)
    (hFrom : StepsFrom before after) :
    after.Traced := by
  refine ⟨hAfter, ?_⟩
  intro id next hNext level square hSquare piece hPiece
  have hOldNext := hFrom id next hNext
  rcases hBefore.sound.steps_exact id next hOldNext with
    ⟨level', square', hOld, -⟩
  have hLevel :=
    (hOld.of_extends hExtends).hasLevel.unique
      hSquare.hasLevel
  obtain rfl : level' = level := by omega
  obtain rfl : square' = square :=
    (hOld.of_extends hExtends).unique hSquare
  exact (hBefore.holds_trail id next hOldNext square' hOld
    piece hPiece).of_extends hExtends

theorem traced_new
    (interning memoizing : Bool) :
    (new interning memoizing).Traced := by
  refine ⟨sound_new interning memoizing, ?_⟩
  intro id next hNext
  simp [new] at hNext

theorem Traced.push
    (hTraced : arena.Traced)
    {entry : Entry}
    (hAccepts : arena.Accepts entry)
    (hPush : arena.push entry = .ok (id, after)) :
    after.Traced :=
  hTraced.of_stepsFrom
    (sound_push hPush hTraced.sound hAccepts)
    (grows_push hPush).keeps (stepsFrom_push hPush)

theorem Traced.pushWall
    (hTraced : arena.Traced)
    (hWall :
      arena.Denotes id
        (Square.uniform .wall arena.walls.size)) :
    (arena.pushWall id).Traced :=
  hTraced.of_stepsFrom (sound_pushWall hTraced.sound hWall)
    (extends_pushWall arena id) fun _ _ hNext => hNext

/- A step may be remembered when its trail is there. -/
theorem Traced.setNext
    (hTraced : arena.Traced)
    {square : Square (level + 2)}
    (hSquare : arena.Denotes id square)
    (hNext : arena.Denotes next square.advance)
    (hTrail : ∀ piece ∈ square.trail, arena.Holds piece) :
    (arena.setNext id next).Traced := by
  have hExtends := extends_setNext arena id next
  have hBack : Extends (arena.setNext id next) arena :=
    fun _ _ hEntry => hEntry
  refine ⟨sound_setNext hTraced.sound hSquare hNext, ?_⟩
  intro other step hStep level' square' hOther piece hPiece
  replace hOther := hOther.of_extends hBack
  change (arena.steps.setIfInBounds id _)[other]? = _
    at hStep
  rw [Array.getElem?_setIfInBounds] at hStep
  by_cases hSame : id = other
  · subst hSame
    have hLevel := hSquare.hasLevel.unique hOther.hasLevel
    obtain rfl : level = level' := by omega
    obtain rfl : square = square' := hSquare.unique hOther
    exact (hTrail piece hPiece).of_extends hExtends
  · rw [if_neg hSame] at hStep
    exact (hTraced.holds_trail other step hStep square'
      hOther piece hPiece).of_extends hExtends

theorem steps_eq_of_cachedNext_eq
    (hFound : arena.cachedNext id = .ok (some next)) :
    arena.steps[id]? = some (some next) := by
  unfold cachedNext at hFound
  split at hFound
  · split at hFound
    · next hStep =>
        cases hFound
        exact hStep
    · cases hFound
  · cases hFound

end Arena

end LatticeGas

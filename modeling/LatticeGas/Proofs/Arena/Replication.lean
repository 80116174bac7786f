import LatticeGas.Proofs.Arena.Actions
import LatticeGas.Proofs.Arena.Counting
import Mathlib.Order.Interval.Finset.Nat

/-
  This file shows that a copy in another arena is exact, and
  that it adds no more nodes than it has to. What is copied
  is the part of the source that is reached from the root. If
  the target does not share nodes, each node of this part is
  added once, and else each of its squares that is new there.

  Key definitions include:
    * `Arena.Reaches`
    * `Arena.LeavesSteps`
    * `Arena.piecesBelow`
    * `Copying.Mirrors`
    * `Copying.Tracks`
    * `Copying.LeavesOut`
    * `Copying.Replicates`

  Key theorems include:
    * `Copying.Tracks.push`
    * `Copying.replicates_copyStep`
    * `Copying.replicates_copy`
    * `Copying.Tracks.size_add_encard`
    * `Copying.Tracks.pieces_eq`
    * `Copying.LeavesOut.lt_add_encard`
    * `Building.copyTree_cases`
    * `Arena.copyTree_exact_of_run`
-/

------------------------------------------------------------
-- Parts of an Arena
------------------------------------------------------------

namespace LatticeGas

namespace Arena

/-
  The nodes that are reached from a root: the root itself,
  its quadrants, their quadrants, and so on.
-/
inductive Reaches
    (arena : Arena)
    (root : NodeId) : NodeId → Prop where
  | root : Reaches arena root root
  | quadrant
      {id child : NodeId}
      {level : Nat}
      {children : Quad NodeId}
      (hReaches : Reaches arena root id)
      (hNode :
        arena.entries[id]? = some (.node level children))
      (hChild : child ∈ children.toList) :
      Reaches arena root child

variable {arena : Arena}
variable {root id other : NodeId}

theorem Reaches.trans
    (hFirst : arena.Reaches root id)
    (hSecond : arena.Reaches id other) :
    arena.Reaches root other := by
  induction hSecond with
  | root => exact hFirst
  | quadrant _ hNode hChild ih => exact ih.quadrant hNode hChild

/- Quadrants come first, so nothing behind is reached. -/
theorem Reaches.le
    (hReaches : arena.Reaches root id)
    (hArena : arena.WellFormed) :
    id ≤ root := by
  induction hReaches with
  | root => exact Nat.le_refl root
  | quadrant _ hNode hChild ih =>
      have hBefore := hArena.child_lt _ _ _ hNode _ hChild
      exact Nat.le_trans (Nat.le_of_lt hBefore) ih

/- So no more nodes are reached than there are. -/
theorem encard_reaches_le
    (hArena : arena.WellFormed)
    (hRoot : root < arena.size) :
    { i | arena.Reaches root i }.encard ≤ arena.size := by
  have hBefore :
      { i | arena.Reaches root i } ⊆ Set.Iio arena.size :=
    fun i hReaches =>
      Nat.lt_of_le_of_lt (hReaches.le hArena) hRoot
  have hLess := Set.encard_le_encard hBefore
  rwa [← Finset.coe_Iio, Set.encard_coe_eq_coe_finsetCard,
    Nat.card_Iio] at hLess

/- All nodes stand for squares that are reached. -/
theorem Reaches.exists_denotes
    (hReaches : arena.Reaches root id)
    (hArena : arena.WellFormed)
    (hRoot : root < arena.size) :
    ∃ (level : Nat) (square : Square level),
      arena.Denotes id square := by
  have hId : id < arena.size :=
    Nat.lt_of_le_of_lt (hReaches.le hArena) hRoot
  have hEntry := Array.getElem?_eq_getElem hId
  exact ⟨_, hArena.exists_denotes ⟨_, hEntry, rfl⟩⟩

/- The squares of the nodes that are reached from a root. -/
def piecesBelow
    (arena : Arena)
    (root : NodeId) : Set Piece :=
  { piece |
    ∃ id,
      arena.Reaches root id ∧
        arena.Denotes id piece.square }

end Arena

end LatticeGas

------------------------------------------------------------
-- Steps That Stay
------------------------------------------------------------

namespace LatticeGas

namespace Arena

/- Old nodes keep their steps, and the new ones have none. -/
structure LeavesSteps (before after : Arena) : Prop where
  memoizing_eq : after.memoizing = before.memoizing
  steps_eq :
    after.steps =
      before.steps ++
        Array.replicate (after.size - before.size) none

variable {arena before after : Arena}

theorem LeavesSteps.refl
    (arena : Arena) :
    LeavesSteps arena arena := by
  constructor
  · rfl
  · rw [Nat.sub_self, Array.replicate_zero,
      Array.append_empty]

section Push

variable {entry : Entry}
variable {id : NodeId}
variable (hPush : arena.push entry = .ok (id, after))

include hPush

theorem size_le_push :
    arena.size ≤ after.size := by
  cases pushed_of_push_eq_ok hPush with
  | found => exact Nat.le_refl _
  | added =>
      rw [size_extended]
      exact Nat.le_succ _

/- At most the node that was asked for is added. -/
theorem lt_size_push_cases
    {other : NodeId}
    (hOther : other < after.size) :
    other < arena.size ∨ other = id := by
  cases pushed_of_push_eq_ok hPush with
  | found => exact .inl hOther
  | added =>
      rw [size_extended] at hOther
      exact Nat.lt_or_eq_of_le (Nat.le_of_lt_succ hOther)

/- If nodes are not shared, it is always a new one. -/
theorem push_eq_size
    (hPlain : arena.interning = false) :
    id = arena.size := by
  cases pushed_of_push_eq_ok hPush with
  | found _ hShares =>
      rw [hPlain] at hShares
      cases hShares
  | added => rfl

/- The node that is added does not have a step. -/
theorem LeavesSteps.push
    (hSteps : LeavesSteps before arena)
    (hSize : before.size ≤ arena.size) :
    LeavesSteps before after := by
  cases pushed_of_push_eq_ok hPush with
  | found => exact hSteps
  | added =>
      constructor
      · exact hSteps.memoizing_eq
      · have hNew :
            arena.size + 1 - before.size =
              arena.size - before.size + 1 := by
          omega
        rw [size_extended, hNew, Array.replicate_succ,
          Array.append_push, ← hSteps.steps_eq]
        rfl

end Push

theorem LeavesSteps.cachedNext_old
    (hSteps : LeavesSteps before after)
    (hBefore : before.WellFormed)
    {id : NodeId}
    (hId : id < before.size) :
    after.cachedNext id = before.cachedNext id := by
  rw [← hBefore.size_steps] at hId
  unfold cachedNext
  rw [hSteps.memoizing_eq, hSteps.steps_eq,
    Array.getElem?_append_left hId,
    Array.getElem?_eq_getElem hId]

theorem LeavesSteps.cachedNext_new
    (hSteps : LeavesSteps before after)
    (hBefore : before.WellFormed)
    {id : NodeId}
    (hOld : before.size ≤ id)
    (hNew : id < after.size) :
    after.cachedNext id = .ok none := by
  have hPlace := Nat.sub_lt_sub_right hOld hNew
  rw [← hBefore.size_steps] at hOld hPlace
  unfold cachedNext
  rw [hSteps.steps_eq, ← hBefore.size_steps,
    Array.getElem?_append_right hOld,
    Array.getElem?_replicate, if_pos hPlace]
  split <;> rfl

end Arena

end LatticeGas

------------------------------------------------------------
-- Tables of Copies
------------------------------------------------------------

namespace LatticeGas

namespace Copying

open Arena

/- The copies of four quadrants. -/
structure FindsQuad
    (copies : Std.HashMap NodeId NodeId)
    (children ids : Quad NodeId) : Prop where
  sw : copies[children.sw]? = some ids.sw
  se : copies[children.se]? = some ids.se
  nw : copies[children.nw]? = some ids.nw
  ne : copies[children.ne]? = some ids.ne

/-
  What the copy of a node has to be: the same leaf, or a node
  of the same level above the copies of the quadrants.
-/
inductive CopiesEntry
    (copies : Std.HashMap NodeId NodeId) :
    Entry → Entry → Prop where
  | leaf (cell : Cell) :
      CopiesEntry copies (.leaf cell) (.leaf cell)
  | node
      (level : Nat)
      {children ids : Quad NodeId}
      (hQuad : FindsQuad copies children ids) :
      CopiesEntry copies (.node level children)
        (.node level ids)

/- All copies in the table are what they have to be. -/
def Mirrors
    (source : Arena)
    (copies : Std.HashMap NodeId NodeId)
    (target : Arena) : Prop :=
  ∀ id copy : NodeId,
    copies[id]? = some copy →
      ∃ entry entry',
        source.entries[id]? = some entry ∧
          target.entries[copy]? = some entry' ∧
          CopiesEntry copies entry entry'

/- A table keeps its copies, and gets some of the region. -/
structure Grown
    (region : NodeId → Prop)
    (copies known : Std.HashMap NodeId NodeId) : Prop where
  keeps :
    ∀ id copy : NodeId,
      copies[id]? = some copy → known[id]? = some copy
  within :
    ∀ id copy : NodeId,
      known[id]? = some copy →
        copies[id]? = some copy ∨ region id

variable {source target : Arena}
variable {copies known later : Std.HashMap NodeId NodeId}
variable {region wider : NodeId → Prop}
variable {id copy root : NodeId}

theorem Grown.refl
    (region : NodeId → Prop)
    (copies : Std.HashMap NodeId NodeId) :
    Grown region copies copies :=
  ⟨fun _ _ hFound => hFound, fun _ _ hFound => .inl hFound⟩

theorem Grown.trans
    (hFirst : Grown region copies known)
    (hSecond : Grown region known later) :
    Grown region copies later := by
  constructor
  · intro id copy hFound
    exact hSecond.keeps id copy (hFirst.keeps id copy hFound)
  · intro id copy hFound
    rcases hSecond.within id copy hFound with hOld | hNew
    · exact hFirst.within id copy hOld
    · exact .inr hNew

theorem Grown.mono
    (hGrown : Grown region copies known)
    (hWider : ∀ id, region id → wider id) :
    Grown wider copies known :=
  ⟨hGrown.keeps, fun id copy hFound =>
    (hGrown.within id copy hFound).imp_right (hWider id)⟩

/- What is beyond the region stays unknown. -/
theorem Grown.getElem?_eq_none
    (hGrown : Grown region copies known)
    (hUnknown : copies[id]? = none)
    (hBeyond : ¬ region id) :
    known[id]? = none := by
  apply Option.eq_none_iff_forall_ne_some.mpr
  intro copy hFound
  rcases hGrown.within id copy hFound with hOld | hRegion
  · rw [hUnknown] at hOld
    cases hOld
  · exact hBeyond hRegion

/- A table gets the copy of one more node. -/
theorem grown_insert
    (hUnknown : copies[id]? = none)
    (hRegion : region id)
    (copy : NodeId) :
    Grown region copies (copies.insert id copy) := by
  constructor
  · intro other found hFound
    have hOther : id ≠ other := by
      rintro rfl
      rw [hUnknown] at hFound
      cases hFound
    rw [Std.HashMap.getElem?_insert]
    simpa [hOther] using hFound
  · intro other found hFound
    rcases getElem?_insert_cases hFound with
      ⟨rfl, -⟩ | ⟨-, hOld⟩
    · exact .inr hRegion
    · exact .inl hOld

theorem FindsQuad.of_grown
    {children ids : Quad NodeId}
    (hQuad : FindsQuad copies children ids)
    (hGrown : Grown region copies known) :
    FindsQuad known children ids :=
  ⟨hGrown.keeps _ _ hQuad.sw, hGrown.keeps _ _ hQuad.se,
    hGrown.keeps _ _ hQuad.nw, hGrown.keeps _ _ hQuad.ne⟩

theorem CopiesEntry.of_grown
    {entry entry' : Entry}
    (hEntry : CopiesEntry copies entry entry')
    (hGrown : Grown region copies known) :
    CopiesEntry known entry entry' := by
  cases hEntry with
  | leaf cell => exact .leaf cell
  | node level hQuad =>
      exact .node level (hQuad.of_grown hGrown)

/- A table with a node has everything that is reached. -/
theorem Mirrors.exists_copy
    (hMirrors : Mirrors source copies target)
    (hRoot : copies[root]? = some copy)
    (hReaches : source.Reaches root id) :
    ∃ copy : NodeId, copies[id]? = some copy := by
  induction hReaches with
  | root => exact ⟨copy, hRoot⟩
  | @quadrant id child level children _ hNode hChild ih =>
      rcases ih with ⟨above, hAbove⟩
      rcases hMirrors id above hAbove with
        ⟨entry, entry', hEntry, -, hCopies⟩
      rw [hNode] at hEntry
      cases hEntry
      rcases hCopies with - | ⟨_, hQuad⟩
      simp only [Quad.toList, List.mem_cons,
        List.not_mem_nil, or_false] at hChild
      rcases hChild with rfl | rfl | rfl | rfl
      · exact ⟨_, hQuad.sw⟩
      · exact ⟨_, hQuad.se⟩
      · exact ⟨_, hQuad.nw⟩
      · exact ⟨_, hQuad.ne⟩

/- Its copies stand for the squares of their originals. -/
theorem Mirrors.denotes
    (hMirrors : Mirrors source copies target)
    (hCopy : copies[id]? = some copy)
    {level : Nat}
    {square : Square level}
    (hSquare : source.Denotes id square) :
    target.Denotes copy square := by
  induction level generalizing id copy with
  | zero =>
      rcases square with ⟨cell⟩
      rw [denotes_leaf_iff] at hSquare ⊢
      rcases hMirrors id copy hCopy with
        ⟨entry, entry', hEntry, hFound, hCopies⟩
      rw [hSquare] at hEntry
      cases hEntry
      cases hCopies
      exact hFound
  | succ level ih =>
      rcases (denotes_succ_iff source id square).mp hSquare
        with ⟨children, hNode, hChildren⟩
      rcases hMirrors id copy hCopy with
        ⟨entry, entry', hEntry, hFound, hCopies⟩
      rw [hNode] at hEntry
      cases hEntry
      rcases hCopies with - | ⟨_, hQuad⟩
      exact (denotes_succ_iff target copy square).mpr
        ⟨_, hFound, ih hQuad.sw hChildren.sw,
          ih hQuad.se hChildren.se, ih hQuad.nw hChildren.nw,
          ih hQuad.ne hChildren.ne⟩

theorem FindsQuad.denotes
    {children ids : Quad NodeId}
    (hQuad : FindsQuad copies children ids)
    (hMirrors : Mirrors source copies target)
    {level : Nat}
    {squares : Quad (Square level)}
    (hSquares : source.DenotesQuad children squares) :
    target.DenotesQuad ids squares where
  sw := hMirrors.denotes hQuad.sw hSquares.sw
  se := hMirrors.denotes hQuad.se hSquares.se
  nw := hMirrors.denotes hQuad.nw hSquares.nw
  ne := hMirrors.denotes hQuad.ne hSquares.ne

theorem Mirrors.lt_size
    (hMirrors : Mirrors source copies target)
    (hCopy : copies[id]? = some copy) :
    copy < target.size := by
  rcases hMirrors id copy hCopy with
    ⟨entry, entry', hEntry, hFound, hCopies⟩
  exact (Array.getElem?_eq_some_iff.mp hFound).choose

end Copying

end LatticeGas

------------------------------------------------------------
-- One More Copy
------------------------------------------------------------

namespace LatticeGas

namespace Copying

open Arena

/-
  What holds of a target at any time while it gets copies. It
  started as another arena, and whatever was added is a copy.
  Where nodes are not shared, all copies were added, and each
  of them is the copy of one node.
-/
structure Tracks
    (source start : Arena)
    (copies : Std.HashMap NodeId NodeId)
    (target : Arena) : Prop where
  evolves : Evolves start target
  size_le : start.size ≤ target.size
  steps : LeavesSteps start target
  mirrors : Mirrors source copies target
  covers :
    ∀ copy : NodeId,
      start.size ≤ copy → copy < target.size →
        ∃ id : NodeId, copies[id]? = some copy
  added :
    start.interning = false →
      ∀ id copy : NodeId,
        copies[id]? = some copy → start.size ≤ copy
  injective :
    start.interning = false →
      ∀ id other copy : NodeId,
        copies[id]? = some copy →
          copies[other]? = some copy → id = other

variable {source start target : Arena}
variable {copies : Std.HashMap NodeId NodeId}
variable {id copy : NodeId}

/- Nothing is copied at the start. -/
theorem tracks_empty
    (source : Arena)
    (hStart : start.WellFormed) :
    Tracks source start ∅ start where
  evolves := hStart.evolves
  size_le := Nat.le_refl _
  steps := LeavesSteps.refl start
  mirrors := fun id copy hCopy =>
    absurd hCopy (getElem?_empty_ne id copy)
  covers := fun _ hOld hNew =>
    absurd hNew (Nat.not_lt.mpr hOld)
  added := fun _ id copy hCopy =>
    absurd hCopy (getElem?_empty_ne id copy)
  injective := fun _ id _ copy hCopy =>
    absurd hCopy (getElem?_empty_ne id copy)

section Push

variable {after : Arena}
variable {entry entry' : Entry}
variable (hPush : target.push entry' = .ok (copy, after))

include hPush

/- The entry of a copy is added, or it is found. -/
theorem Mirrors.push
    (hMirrors : Mirrors source copies target)
    (hTarget : target.WellFormed)
    (hUnknown : copies[id]? = none)
    (hEntry : source.entries[id]? = some entry)
    (hCopies : CopiesEntry copies entry entry') :
    Mirrors source (copies.insert id copy) after := by
  have hGrown :
      Grown (fun _ => True) copies (copies.insert id copy) :=
    grown_insert hUnknown trivial _
  intro other found hFound
  rcases getElem?_insert_cases hFound with
    ⟨rfl, rfl⟩ | ⟨-, hOld⟩
  · exact ⟨entry, entry', hEntry,
      entries_push hPush hTarget, hCopies.of_grown hGrown⟩
  · rcases hMirrors other found hOld with
      ⟨first, second, hFirst, hSecond, hSame⟩
    exact ⟨first, second, hFirst,
      (grows_push hPush).keeps found second hSecond,
      hSame.of_grown hGrown⟩

/- From then on the copy is known. -/
theorem Tracks.push
    (hTracks : Tracks source start copies target)
    (hUnknown : copies[id]? = none)
    (hEntry : source.entries[id]? = some entry)
    (hCopies : CopiesEntry copies entry entry')
    (hAccepts : target.Accepts entry') :
    Tracks source start (copies.insert id copy) after := by
  have hArena := hTracks.evolves.wellFormed
  have hPushed :=
    (evolves_of_push_eq hArena hAccepts hPush).1
  have hNew (hPlain : start.interning = false) :
      copy = target.size :=
    push_eq_size hPush
      (hTracks.evolves.interning_eq.trans hPlain)
  refine
    { evolves := hTracks.evolves.trans hPushed
      size_le := hTracks.size_le.trans (size_le_push hPush)
      steps := hTracks.steps.push hPush hTracks.size_le
      mirrors :=
        hTracks.mirrors.push hPush hArena hUnknown hEntry
          hCopies
      covers := ?_
      added := ?_
      injective := ?_ }
  · intro found hFound hLess
    rcases lt_size_push_cases hPush hLess with hOld | rfl
    · rcases hTracks.covers found hFound hOld with
        ⟨other, hOther⟩
      have hGrown :
          Grown (fun _ => True) copies
            (copies.insert id copy) :=
        grown_insert hUnknown trivial _
      exact ⟨other, hGrown.keeps other found hOther⟩
    · exact ⟨id, Std.HashMap.getElem?_insert_self⟩
  · intro hPlain other found hFound
    rcases getElem?_insert_cases hFound with
      ⟨-, rfl⟩ | ⟨-, hOld⟩
    · rw [hNew hPlain]
      exact hTracks.size_le
    · exact hTracks.added hPlain other found hOld
  · intro hPlain first second found hFirst hSecond
    -- The new copy is none of those that were there before.
    have hOther :
        ∀ other : NodeId, copies[other]? ≠ some copy := by
      intro other hOld
      have hLess := hTracks.mirrors.lt_size hOld
      rw [hNew hPlain] at hLess
      exact Nat.lt_irrefl _ hLess
    rcases getElem?_insert_cases hFirst with
      ⟨rfl, rfl⟩ | ⟨-, hFirst⟩
    · rcases getElem?_insert_cases hSecond with
        ⟨rfl, -⟩ | ⟨-, hSecond⟩
      · rfl
      · exact absurd hSecond (hOther second)
    · rcases getElem?_insert_cases hSecond with
        ⟨rfl, rfl⟩ | ⟨-, hSecond⟩
      · exact absurd hFirst (hOther first)
      · exact hTracks.injective hPlain first second found
          hFirst hSecond

end Push

/-
  The numbers for nodes are used up in the target, and a node
  of the source has no copy yet. Where nodes are shared, its
  square is not there either.
-/
structure LeavesOut
    (source start : Arena)
    (copies : Std.HashMap NodeId NodeId)
    (target : Arena)
    (id : NodeId) : Prop where
  tracks : Tracks source start copies target
  full : nodeLimit ≤ target.size
  unknown : copies[id]? = none
  missing :
    target.interning = true →
      ∀ {level : Nat} (square : Square level),
        source.Denotes id square →
          ¬ target.Holds ⟨level, square⟩

/- What cannot be added is left out. -/
theorem Tracks.leavesOut
    (hTracks : Tracks source start copies target)
    (hUnknown : copies[id]? = none)
    {level : Nat}
    {square : Square level}
    (hSquare : source.Denotes id square)
    {entry' : Entry}
    (hNames : target.Names entry' ⟨level, square⟩)
    {fault : Fault}
    (hPush : target.push entry' = .error fault) :
    LeavesOut source start copies target id := by
  have hPushed := pushed_push target entry'
  rw [hPush] at hPushed
  cases hPushed with
  | full hNew hFull =>
      refine ⟨hTracks, hFull, hUnknown, ?_⟩
      intro hShares level' square' hOther
      have hPiece : source.Denotes id
          (Piece.mk level square).square := hSquare
      have hSame :
          Piece.mk level square = ⟨level', square'⟩ :=
        hPiece.piece_eq hOther
      rw [← hSame]
      exact hTracks.evolves.wellFormed.not_holds_of_new
        hShares hNames hNew

end Copying

end LatticeGas

------------------------------------------------------------
-- All Copies
------------------------------------------------------------

namespace LatticeGas

namespace Copying

open Arena Building

/-
  The numbers for nodes are used up while a node of the region
  is left out.
-/
def Stuck
    (source start : Arena)
    (region : NodeId → Prop)
    (copies : Std.HashMap NodeId NodeId)
    (fault : Fault) : Prop :=
  fault.Exhaustion ∧
    ∃ known middle id,
      LeavesOut source start known middle id ∧
        Grown region copies known ∧ region id

/-
  The computation comes to an end, unless a node of the region
  is left out. What is copied on the way belongs to the
  region, and the outcome is as wanted.
-/
def Adds
    {A : Type}
    (source start : Arena)
    (region : NodeId → Prop)
    (copying : Copying A)
    (copies : Std.HashMap NodeId NodeId)
    (target : Arena)
    (goal : A → Std.HashMap NodeId NodeId → Prop) : Prop :=
  Barring (Stuck source start region copies)
    (fun ((value, known), after) =>
      Tracks source start known after ∧
        Grown region copies known ∧ goal value known)
    (copying copies target)

/-
  The computation copies any node of the source that has a
  square of the level, and nothing that it does not reach.
-/
def Replicates
    (source start : Arena)
    (level : Nat)
    (copyNode : NodeId → Copying NodeId) : Prop :=
  ∀ (copies : Std.HashMap NodeId NodeId) (target : Arena)
    (id : NodeId) (square : Square level),
    Tracks source start copies target →
      source.Denotes id square →
        Adds source start (source.Reaches id) (copyNode id)
          copies target fun copy known =>
            known[id]? = some copy

variable {A B : Type}
variable {source start target : Arena}
variable {copies : Std.HashMap NodeId NodeId}
variable {region wider : NodeId → Prop}
variable {id : NodeId}
variable {level : Nat}

theorem Adds.pure
    {value : A}
    {goal : A → Std.HashMap NodeId NodeId → Prop}
    (hTracks : Tracks source start copies target)
    (hGoal : goal value copies) :
    Adds source start region (Pure.pure value) copies target
      goal :=
  ⟨hTracks, Grown.refl region copies, hGoal⟩

theorem Adds.of_run_eq
    {copying other : Copying A}
    {goal : A → Std.HashMap NodeId NodeId → Prop}
    (hOther :
      Adds source start region other copies target goal)
    (hRun : copying copies = other copies) :
    Adds source start region copying copies target goal := by
  unfold Adds
  rw [hRun]
  exact hOther

/- A node that is left out later is left out of it all. -/
theorem Stuck.behind
    {known : Std.HashMap NodeId NodeId}
    {fault : Fault}
    (hStuck : Stuck source start region known fault)
    (hGrown : Grown wider copies known)
    (hWider : ∀ id, region id → wider id) :
    Stuck source start wider copies fault := by
  rcases hStuck with
    ⟨hFault, later, middle, id, hLeft, hMore, hRegion⟩
  exact ⟨hFault, later, middle, id, hLeft,
    hGrown.trans (hMore.mono hWider), hWider id hRegion⟩

/- One computation after another, and a part of its region. -/
theorem Adds.bind
    {copying : Copying A}
    {next : A → Copying B}
    {goal : A → Std.HashMap NodeId NodeId → Prop}
    {goal' : B → Std.HashMap NodeId NodeId → Prop}
    (hCopying :
      Adds source start region copying copies target goal)
    (hWider : ∀ id, region id → wider id)
    (hNext :
      ∀ value known after,
        Tracks source start known after →
          Grown region copies known → goal value known →
            Adds source start wider (next value) known after
              goal') :
    Adds source start wider (copying >>= next) copies target
      goal' := by
  refine Barring.bind (Barring.imp hCopying ?_
    fun _ _ hDone => hDone) ?_
  · intro fault hStuck
    exact hStuck.behind (Grown.refl wider copies) hWider
  · rintro ⟨⟨value, known⟩, middle⟩ -
      ⟨hMiddle, hGrown, hGoal⟩
    refine Barring.imp
      (hNext value known middle hMiddle hGrown hGoal) ?_ ?_
    · intro fault hStuck
      exact hStuck.behind (hGrown.mono hWider)
        fun _ hRegion => hRegion
    · rintro ⟨⟨result, later⟩, after⟩ -
        ⟨hAfter, hMore, hResult⟩
      exact ⟨hAfter, (hGrown.mono hWider).trans hMore,
        hResult⟩

/- The four quadrants of a node are copied in order. -/
theorem adds_mapM
    {copyQuadrant : NodeId → Copying NodeId}
    (hReplicates : Replicates source start level copyQuadrant)
    (hTracks : Tracks source start copies target)
    {children : Quad NodeId}
    {squares : Quad (Square level)}
    (hChildren : source.DenotesQuad children squares) :
    Adds source start
      (fun id =>
        ∃ child ∈ children.toList, source.Reaches child id)
      (children.mapM copyQuadrant) copies target
      fun ids known => FindsQuad known children ids := by
  have hRegion {child : NodeId}
      (hChild : child ∈ children.toList)
      (id : NodeId)
      (hReaches : source.Reaches child id) :
      ∃ child ∈ children.toList, source.Reaches child id :=
    ⟨child, hChild, hReaches⟩
  unfold Quad.mapM
  refine (hReplicates copies target _ _ hTracks
    hChildren.sw).bind (hRegion (by simp [Quad.toList])) ?_
  rintro sw known afterSw hTracksSw - hSw
  refine (hReplicates known afterSw _ _ hTracksSw
    hChildren.se).bind (hRegion (by simp [Quad.toList])) ?_
  intro se known afterSe hTracksSe hGrownSe hSe
  refine (hReplicates known afterSe _ _ hTracksSe
    hChildren.nw).bind (hRegion (by simp [Quad.toList])) ?_
  intro nw known afterNw hTracksNw hGrownNw hNw
  refine (hReplicates known afterNw _ _ hTracksNw
    hChildren.ne).bind (hRegion (by simp [Quad.toList])) ?_
  intro ne known after hAfter hGrownNe hNe
  have hSe := hGrownNw.keeps _ _ hSe
  have hSw :=
    hGrownNw.keeps _ _ (hGrownSe.keeps _ _ hSw)
  exact Adds.pure hAfter
    { sw := hGrownNe.keeps _ _ hSw
      se := hGrownNe.keeps _ _ hSe
      nw := hGrownNe.keeps _ _ hNw
      ne := hNe }

/- A copy that is built now is known from then on. -/
theorem adds_learn
    (hTracks : Tracks source start copies target)
    (hUnknown : copies[id]? = none)
    {square : Square level}
    (hSquare : source.Denotes id square)
    {entry entry' : Entry}
    (hEntry : source.entries[id]? = some entry)
    (hCopies : CopiesEntry copies entry entry')
    (hNames : target.Names entry' ⟨level, square⟩)
    {build : Building NodeId}
    (hBuild : build target = target.push entry') :
    Adds source start (source.Reaches id)
      (do
          let copy ← build
          learn id copy
          return copy : Copying NodeId)
      copies target fun copy known =>
        known[id]? = some copy := by
  unfold Adds
  rw [run_learn, hBuild]
  cases hPush : target.push entry' with
  | error fault =>
      exact ⟨(size_eq_of_push_eq_error hPush).1,
        copies, target, id,
        hTracks.leavesOut hUnknown hSquare hNames hPush,
        Grown.refl _ copies, .root⟩
  | ok made =>
      exact ⟨hTracks.push hPush hUnknown hEntry hCopies
          hNames.accepts,
        grown_insert hUnknown .root _,
        Std.HashMap.getElem?_insert_self⟩

/- A node is copied once, and after its quadrants. -/
theorem replicates_copyStep
    (hSource : source.WellFormed)
    {copyQuadrant : NodeId → Copying NodeId}
    (hReplicates :
      ∀ below, level = below + 1 →
        Replicates source start below copyQuadrant) :
    Replicates source start level
      (copyStep source copyQuadrant) := by
  intro copies target id square hTracks hSquare
  cases hKnown : copies[id]? with
  | some copy =>
      exact Barring.of_eq_ok (copyStep_of_known hKnown)
        ⟨hTracks, Grown.refl _ copies, hKnown⟩
  | none =>
      cases level with
      | zero =>
          rcases square with ⟨cell⟩
          have hEntry :=
            (denotes_leaf_iff source id cell).mp hSquare
          exact (adds_learn hTracks hKnown hSquare hEntry
            (.leaf cell) (names_leaf target cell)
              rfl).of_run_eq (copyStep_of_leaf hKnown hEntry)
      | succ below =>
          rcases (denotes_succ_iff source id square).mp
            hSquare with ⟨children, hEntry, hChildren⟩
          have hMax :=
            hSource.level_le_max hSquare.hasLevel
          refine Adds.of_run_eq ((adds_mapM
            (hReplicates below rfl) hTracks hChildren).bind
              ?_ ?_) (copyStep_of_node hKnown hEntry)
          · rintro other ⟨child, hChild, hReaches⟩
            exact (Reaches.root.quadrant hEntry hChild).trans
              hReaches
          · intro ids known middle hMiddle hGrown hQuad
            -- Its quadrants come before the node, so copying
            -- them did not reach it.
            have hUnknown : known[id]? = none :=
              hGrown.getElem?_eq_none hKnown
                fun ⟨child, hChild, hReaches⟩ =>
                  Nat.not_lt.mpr (hReaches.le hSource)
                    (hSource.child_lt id _ _ hEntry child
                      hChild)
            have hIds := hQuad.denotes hMiddle.mirrors hChildren
            have hNames := hIds.names (by omega)
            rw [Square.ofQuad_quadrants] at hNames
            exact adds_learn hMiddle hUnknown hSquare hEntry
              (.node _ hQuad) hNames
              (node_eq_push hIds (by omega))

theorem replicates_copy
    (hSource : source.WellFormed)
    {depth : Nat}
    (hDepth : level ≤ depth) :
    Replicates source start level (copy source depth) :=
  copy_induction (motive := Replicates source start)
    (fun _ _ => replicates_copyStep hSource) hDepth

end Copying

end LatticeGas

------------------------------------------------------------
-- What a Copy Adds
------------------------------------------------------------

namespace LatticeGas

namespace Copying

open Arena

variable {source start after : Arena}
variable {known : Std.HashMap NodeId NodeId}
variable {root id copy : NodeId}

/- The nodes that got a copy are those that are reached. -/
theorem Tracks.known_iff
    (hTracks : Tracks source start known after)
    (hGrown : Grown (source.Reaches root) ∅ known)
    (hRoot : known[root]? = some copy)
    (id : NodeId) :
    (∃ copy : NodeId, known[id]? = some copy) ↔
      source.Reaches root id := by
  constructor
  · rintro ⟨found, hFound⟩
    rcases hGrown.within id found hFound with hOld | hReaches
    · exact absurd hOld (getElem?_empty_ne id found)
    · exact hReaches
  · exact hTracks.mirrors.exists_copy hRoot

/- Without shared nodes there is a new node for each. -/
theorem Tracks.size_add_encard
    (hTracks : Tracks source start known after)
    (hKnown :
      ∀ id : NodeId,
        (∃ copy : NodeId, known[id]? = some copy) ↔
          source.Reaches root id)
    (hPlain : start.interning = false) :
    (start.size : ℕ∞) +
        { id | source.Reaches root id }.encard =
      after.size := by
  have hInjective :
      Set.InjOn (fun id : NodeId => known[id]?)
        { id | source.Reaches root id } := by
    intro id hId other _ hSame
    rcases (hKnown id).mpr hId with ⟨copy, hCopy⟩
    exact hTracks.injective hPlain id other copy hCopy
      (hSame.symm.trans hCopy)
  have hImage :
      (fun id : NodeId => known[id]?) ''
          { id | source.Reaches root id } =
        some '' Set.Ico start.size after.size := by
    ext found
    constructor
    · rintro ⟨id, hId, rfl⟩
      rcases (hKnown id).mpr hId with ⟨copy, hCopy⟩
      exact ⟨copy, ⟨hTracks.added hPlain id copy hCopy,
        hTracks.mirrors.lt_size hCopy⟩, hCopy.symm⟩
    · rintro ⟨copy, ⟨hOld, hNew⟩, rfl⟩
      rcases hTracks.covers copy hOld hNew with ⟨id, hCopy⟩
      exact ⟨id, (hKnown id).mp ⟨copy, hCopy⟩, hCopy⟩
  rw [← hInjective.encard_image, hImage,
    (Option.some_injective _).injOn.encard_image,
    ← Finset.coe_Ico, Set.encard_coe_eq_coe_finsetCard,
    Nat.card_Ico, ← Nat.cast_add,
    Nat.add_sub_cancel' hTracks.size_le]

/- At most one node is added for each one with a copy. -/
theorem Tracks.size_le_add_encard
    (hTracks : Tracks source start known after) :
    (after.size : ℕ∞) ≤
      start.size +
        { id : NodeId | ∃ copy : NodeId,
          known[id]? = some copy }.encard := by
  have hCovered :
      some '' Set.Ico start.size after.size ⊆
        (fun id : NodeId => known[id]?) ''
          { id : NodeId |
            ∃ copy : NodeId, known[id]? = some copy } := by
    rintro found ⟨copy, ⟨hOld, hNew⟩, rfl⟩
    rcases hTracks.covers copy hOld hNew with ⟨id, hCopy⟩
    exact ⟨id, ⟨copy, hCopy⟩, hCopy⟩
  have hCount :
      (Set.Ico start.size after.size).encard =
        (after.size - start.size : ℕ) := by
    rw [← Finset.coe_Ico, Set.encard_coe_eq_coe_finsetCard,
      Nat.card_Ico]
  have hLess := (Set.encard_le_encard hCovered).trans
    (Set.encard_image_le _ _)
  rw [(Option.some_injective _).injOn.encard_image, hCount]
    at hLess
  calc
    (after.size : ℕ∞) =
        start.size + (after.size - start.size : ℕ) := by
      rw [← Nat.cast_add, Nat.add_sub_cancel' hTracks.size_le]
    _ ≤ _ := by gcongr

/- Nothing else comes to the target than what is reached. -/
theorem Tracks.pieces_subset
    (hTracks : Tracks source start known after)
    (hKnown :
      ∀ id copy : NodeId,
        known[id]? = some copy → source.Reaches root id)
    (hStart : start.WellFormed)
    (hSource : source.WellFormed)
    (hRoot : root < source.size) :
    after.pieces ⊆ start.pieces ∪ source.piecesBelow root := by
  rintro piece ⟨id, hPiece⟩
  by_cases hOld : id < start.size
  · have hEntry := Array.getElem?_eq_getElem hOld
    rcases hStart.exists_denotes ⟨_, hEntry, rfl⟩ with
      ⟨square, hSquare⟩
    have hSame : piece = ⟨_, square⟩ :=
      hPiece.piece_eq
        (hSquare.of_extends hTracks.evolves.keeps)
    rw [hSame]
    exact .inl hSquare.holds
  · rcases hTracks.covers id (Nat.not_lt.mp hOld)
      hPiece.hasLevel.lt_size with ⟨other, hCopy⟩
    have hReaches := hKnown other id hCopy
    rcases hReaches.exists_denotes hSource hRoot with
      ⟨level, square, hSquare⟩
    have hSame : piece = ⟨level, square⟩ :=
      hPiece.piece_eq (hTracks.mirrors.denotes hCopy hSquare)
    rw [hSame]
    exact .inr ⟨other, hReaches, hSquare⟩

/- Whatever the target holds now was there or was reached. -/
theorem Tracks.pieces_eq
    (hTracks : Tracks source start known after)
    (hKnown :
      ∀ id : NodeId,
        (∃ copy : NodeId, known[id]? = some copy) ↔
          source.Reaches root id)
    (hStart : start.WellFormed)
    (hSource : source.WellFormed)
    (hRoot : root < source.size) :
    after.pieces = start.pieces ∪ source.piecesBelow root := by
  have hReached :
      ∀ id copy : NodeId,
        known[id]? = some copy → source.Reaches root id :=
    fun id copy hCopy => (hKnown id).mp ⟨copy, hCopy⟩
  refine (hTracks.pieces_subset hReached hStart hSource
    hRoot).antisymm ?_
  rintro piece (hHolds | ⟨id, hReaches, hSquare⟩)
  · exact hHolds.of_extends hTracks.evolves.keeps
  · rcases (hKnown id).mpr hReaches with ⟨copy, hCopy⟩
    exact ⟨copy, hTracks.mirrors.denotes hCopy hSquare⟩

theorem encard_pieces_union
    (hStart : start.WellFormed)
    (hShares : start.interning = true)
    (more : Set Piece) :
    (start.pieces ∪ more).encard =
      start.size + (more \ start.pieces).encard := by
  rw [← Set.union_sdiff_self,
    Set.encard_union_eq Set.disjoint_sdiff_right,
    hStart.encard_pieces hShares]

/- With shared nodes there is one for each new square. -/
theorem Tracks.size_add_encard_pieces
    (hTracks : Tracks source start known after)
    (hPieces :
      after.pieces = start.pieces ∪ source.piecesBelow root)
    (hStart : start.WellFormed)
    (hShares : start.interning = true) :
    (start.size : ℕ∞) +
        (source.piecesBelow root \ start.pieces).encard =
      after.size := by
  have hLater : after.interning = true :=
    hTracks.evolves.interning_eq.trans hShares
  rw [← encard_pieces_union hStart hShares, ← hPieces,
    hTracks.evolves.wellFormed.encard_pieces hLater]

/- Where a node is left out, there is no room for all. -/
theorem LeavesOut.lt_add_encard
    (hLeft : LeavesOut source start known after id)
    (hKnown :
      ∀ id copy : NodeId,
        known[id]? = some copy → source.Reaches root id)
    (hReaches : source.Reaches root id) :
    (nodeLimit : ℕ∞) <
      start.size + { i | source.Reaches root i }.encard := by
  have hMissing :
      id ∉
        { i : NodeId |
          ∃ copy : NodeId, known[i]? = some copy } := by
    rintro ⟨copy, hCopy⟩
    rw [hLeft.unknown] at hCopy
    cases hCopy
  have hReached :
      insert id
          { i : NodeId |
            ∃ copy : NodeId, known[i]? = some copy } ⊆
        { i | source.Reaches root i } := by
    rintro i (rfl | ⟨copy, hCopy⟩)
    · exact hReaches
    · exact hKnown i copy hCopy
  have hLess := Set.encard_le_encard hReached
  rw [Set.encard_insert_of_notMem hMissing] at hLess
  apply (ENat.add_one_le_iff (ENat.natCast_ne_top _)).mp
  calc
    (nodeLimit : ℕ∞) + 1 ≤ after.size + 1 := by
      gcongr
      exact hLeft.full
    _ ≤ start.size +
          { i : NodeId | ∃ copy : NodeId,
            known[i]? = some copy }.encard + 1 := by
      gcongr
      exact hLeft.tracks.size_le_add_encard
    _ ≤ _ := by
      rw [add_assoc]
      gcongr

/- With shared nodes, there is none for the new squares. -/
theorem LeavesOut.lt_add_encard_pieces
    (hLeft : LeavesOut source start known after id)
    (hKnown :
      ∀ id copy : NodeId,
        known[id]? = some copy → source.Reaches root id)
    (hReaches : source.Reaches root id)
    (hStart : start.WellFormed)
    (hSource : source.WellFormed)
    (hRoot : root < source.size)
    (hShares : start.interning = true) :
    (nodeLimit : ℕ∞) <
      start.size +
        (source.piecesBelow root \ start.pieces).encard := by
  have hLater : after.interning = true :=
    hLeft.tracks.evolves.interning_eq.trans hShares
  rcases hReaches.exists_denotes hSource hRoot with
    ⟨level, square, hSquare⟩
  have hMissing : (⟨level, square⟩ : Piece) ∉ after.pieces :=
    hLeft.missing hLater square hSquare
  have hHeld :
      insert ⟨level, square⟩ after.pieces ⊆
        start.pieces ∪ source.piecesBelow root := by
    rintro piece (rfl | hPiece)
    · exact .inr ⟨id, hReaches, hSquare⟩
    · exact hLeft.tracks.pieces_subset hKnown hStart hSource
        hRoot hPiece
  have hLess := Set.encard_le_encard hHeld
  rw [Set.encard_insert_of_notMem hMissing,
    hLeft.tracks.evolves.wellFormed.encard_pieces hLater,
    encard_pieces_union hStart hShares] at hLess
  apply (ENat.add_one_le_iff (ENat.natCast_ne_top _)).mp
  refine le_trans ?_ hLess
  gcongr
  exact hLeft.full

end Copying

namespace Building

open Arena

/-
  The copy of a node is made, and it is known what it adds.
  If it is not made, a node that is reached is left out.
-/
theorem copyTree_cases
    {source target : Arena}
    (hSource : source.WellFormed)
    (hTarget : target.WellFormed)
    {root : NodeId}
    {level : Nat}
    {square : Square level}
    (hSquare : source.Denotes root square) :
    (copyTree source root target = .error .exhausted ∧
      ∃ known middle id,
        Copying.LeavesOut source target known middle id ∧
          (∀ id copy : NodeId,
            known[id]? = some copy → source.Reaches root id) ∧
          source.Reaches root id) ∨
    ∃ id known after,
      copyTree source root target = .ok (id, after) ∧
        Copying.copy source level root ∅ target =
          .ok ((id, known), after) ∧
        Copying.Tracks source target known after ∧
        known[root]? = some id ∧
        ∀ id : NodeId,
          (∃ copy : NodeId, known[id]? = some copy) ↔
            source.Reaches root id := by
  have hTree :
      copyTree source root target =
        (Copying.copy source level root ∅ >>= fun made =>
          Pure.pure made.1) target := by
    unfold copyTree
    rw [hSquare.hasLevel.level_eq]
    rfl
  have hAdds := Copying.replicates_copy hSource
    (Nat.le_refl level) ∅ target root square
    (Copying.tracks_empty source hTarget) hSquare
  rcases Barring.cases hAdds with
    ⟨fault, hRun, rfl, known, middle, id, hLeft, hGrown,
      hReaches⟩ |
    ⟨⟨⟨id, known⟩, after⟩, hRun, hTracks, hGrown, hRoot⟩
  · refine .inl ⟨?_, known, middle, id, hLeft, ?_, hReaches⟩
    · rw [hTree, bind_apply, hRun]
      rfl
    · intro i copy hCopy
      rcases hGrown.within i copy hCopy with hOld | hReached
      · exact absurd hOld (Copying.getElem?_empty_ne i copy)
      · exact hReached
  · refine .inr ⟨id, known, after, ?_, hRun, hTracks, hRoot,
      hTracks.known_iff hGrown hRoot⟩
    rw [hTree, bind_eq_of_run_eq hRun]
    rfl

end Building

namespace Arena

variable {source target : Arena}
variable {sharing memoizing sharing' memoizing' : Bool}
variable {actions actions' : List Action}
variable {answers answers' : List (Option NodeId)}
variable {root : NodeId}

/-
  Whatever was done to two arenas before, the square of any
  node of the one is copied to the other one exactly, and no
  node is added without need. Nodes that were there stay as
  they are, with their steps, and the new ones have no step.
  Each node that is reached has a copy above the copies of
  its quadrants. Without shared nodes in the target, copies
  of different nodes are different, and all of them are new.
  With shared nodes, what is new are the squares that no node
  of the target stood for. The copy is made whenever there
  are numbers left for the nodes that have to be added.
-/
theorem copyTree_exact_of_run
    (hSource :
      Action.run actions (new sharing memoizing) =
        .ok (answers, source))
    (hTarget :
      Action.run actions' (new sharing' memoizing') =
        .ok (answers', target))
    (hRoot : root < source.size) :
    (Building.copyTree source root target =
        .error .exhausted ∧
      (sharing' = false →
        (nodeLimit : ℕ∞) <
          target.size +
            { i | source.Reaches root i }.encard) ∧
      (sharing' = true →
        (nodeLimit : ℕ∞) <
          target.size +
            (source.piecesBelow root \
              target.pieces).encard)) ∨
    ∃ (level : Nat) (square : Square level) (id : NodeId)
      (known : Std.HashMap NodeId NodeId) (after : Arena),
      Building.copyTree source root target =
          .ok (id, after) ∧
        source.Denotes root square ∧
        after.Denotes id square ∧
        (∀ old : NodeId, old < target.size →
          after.entry old = target.entry old ∧
            after.cachedNext old = target.cachedNext old) ∧
        (∀ added : NodeId,
          target.size ≤ added → added < after.size →
            after.cachedNext added = .ok none) ∧
        Copying.copy source level root ∅ target =
          .ok ((id, known), after) ∧
        (∀ i : NodeId,
          (∃ copy : NodeId, known[i]? = some copy) ↔
            source.Reaches root i) ∧
        Copying.Mirrors source known after ∧
        (sharing' = false →
          (∀ i j : NodeId,
            source.Reaches root i → source.Reaches root j →
              (known[i]? = known[j]? ↔ i = j)) ∧
            (target.size : ℕ∞) +
                { i | source.Reaches root i }.encard =
              after.size) ∧
        (sharing' = true →
          (target.size : ℕ∞) +
              (source.piecesBelow root \
                target.pieces).encard =
            after.size) := by
  have hSourceReached := Action.evolves_of_run hSource
  have hTargetReached := Action.evolves_of_run hTarget
  have hSourceFits := hSourceReached.wellFormed
  have hTargetFits := hTargetReached.wellFormed
  have hFlag : target.interning = sharing' :=
    hTargetReached.interning_eq
  rcases Reaches.root.exists_denotes hSourceFits hRoot with
    ⟨level, square, hSquare⟩
  rcases Building.copyTree_cases hSourceFits hTargetFits
    hSquare with
    ⟨hFault, known, middle, left, hLeft, hKnown, hReaches⟩ |
    ⟨id, known, after, hTree, hRun, hTracks, hCopy, hKnown⟩
  · refine .inl ⟨hFault, fun _ =>
      hLeft.lt_add_encard hKnown hReaches, fun hShares => ?_⟩
    exact hLeft.lt_add_encard_pieces hKnown hReaches
      hTargetFits hSourceFits hRoot (hFlag.trans hShares)
  refine .inr ⟨level, square, id, known, after, hTree, hSquare,
    hTracks.mirrors.denotes hCopy hSquare, ?_, ?_, hRun,
    hKnown, hTracks.mirrors, ?_, ?_⟩
  · intro old hOld
    exact ⟨hTracks.evolves.keeps.entry_eq hOld,
      hTracks.steps.cachedNext_old hTargetFits hOld⟩
  · intro added hOld hNew
    exact hTracks.steps.cachedNext_new hTargetFits hOld hNew
  · intro hPlain
    have hUnshared := hFlag.trans hPlain
    refine ⟨?_, hTracks.size_add_encard hKnown hUnshared⟩
    intro i j hi hj
    constructor
    · intro hSame
      rcases (hKnown i).mpr hi with ⟨copy, hFound⟩
      exact hTracks.injective hUnshared i j copy hFound
        (hSame.symm.trans hFound)
    · rintro rfl
      rfl
  · intro hShares
    have hPieces :=
      hTracks.pieces_eq hKnown hTargetFits hSourceFits hRoot
    exact hTracks.size_add_encard_pieces hPieces hTargetFits
      (hFlag.trans hShares)

/-
  A node above two equal leaves is copied behind a leaf whose
  step was planted. Three nodes are added, not two.
-/
theorem copyTree_exact_of_run_planted :
    ∃ source target id after,
      Action.run
          [.leaf .empty, .leaf .empty, .node ⟨0, 0, 1, 1⟩]
          (new false false) =
        .ok ([some 0, some 1, some 2], source) ∧
        Action.run [.leaf .wall, .store 0 0]
            (new false true) =
          .ok ([some 0, none], target) ∧
        Building.copyTree source 2 target =
          .ok (id, after) ∧
        after.cachedNext 0 = .ok (some 0) ∧
        after.size = 4 := by
  have hMade :
      ∃ source,
        Action.run
            [.leaf .empty, .leaf .empty, .node ⟨0, 0, 1, 1⟩]
            (new false false) =
          .ok ([some 0, some 1, some 2], source) ∧
          source.entries[2]? =
            some (.node 1 ⟨0, 0, 1, 1⟩) ∧
          2 < source.size :=
    ⟨_, rfl, rfl, by decide⟩
  have hPlanted :
      ∃ target,
        Action.run [.leaf .wall, .store 0 0]
            (new false true) =
          .ok ([some 0, none], target) ∧
          target.cachedNext 0 = .ok (some 0) ∧
          target.size = 1 :=
    ⟨_, rfl, rfl, rfl⟩
  rcases hMade with ⟨source, hSource, hNode, hRoot⟩
  rcases hPlanted with ⟨target, hTarget, hNext, hSize⟩
  have hThree : ∀ i : Nat, i < 3 → i = 0 ∨ i = 1 ∨ i = 2 := by
    omega
  have hReached :
      { i | source.Reaches 2 i } = Set.Iio 3 := by
    ext i
    constructor
    · intro hReaches
      exact Nat.lt_succ_of_le (hReaches.le
        (Action.evolves_of_run hSource).wellFormed)
    · intro hLess
      rcases hThree i hLess with rfl | rfl | rfl
      · exact Reaches.root.quadrant hNode (by decide)
      · exact Reaches.root.quadrant hNode (by decide)
      · exact Reaches.root
  have hCount :
      (target.size : ℕ∞) +
          { i | source.Reaches 2 i }.encard =
        (4 : ℕ) := by
    rw [hReached, hSize, ← Finset.coe_Iio,
      Set.encard_coe_eq_coe_finsetCard, Nat.card_Iio,
      ← Nat.cast_add]
  rcases copyTree_exact_of_run hSource hTarget hRoot with
    ⟨-, hLacks, -⟩ |
    ⟨level, square, id, known, after, hTree, -, -, hOld, -,
      -, -, -, hPlain, -⟩
  · have hRoom := hLacks rfl
    rw [hCount, Nat.cast_lt] at hRoom
    exact absurd hRoom (by decide)
  · have hAfter := (hPlain rfl).2
    rw [hCount, Nat.cast_inj] at hAfter
    exact ⟨source, target, id, after, hSource, hTarget, hTree,
      (hOld 0 (hSize ▸ Nat.one_pos)).2.trans hNext,
      hAfter.symm⟩

end Arena

end LatticeGas

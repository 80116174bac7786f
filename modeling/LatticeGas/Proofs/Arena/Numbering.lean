import LatticeGas.Proofs.Arena.Replication

/-
  This file shows in which order a copy numbers its nodes. A
  walk through the square that is copied enters quadrants
  before their node and nothing twice, and it comes upon the
  nodes of the copy in the order of their numbers. So a copy
  of the copy has all nodes at the same numbers again.

  Key definitions include:
    * `Arena.Visits`
    * `Copying.Walks`
    * `Copying.Repeats`
    * `Arena.Tidy`

  Key theorems include:
    * `Arena.Visits.reaches`
    * `Copying.walks_copy`
    * `Copying.reproduces_copy`
    * `Building.copyTree_of_visits`
    * `Building.exists_tidy_copyTree`
-/

------------------------------------------------------------
-- Walks
------------------------------------------------------------

namespace LatticeGas

namespace Arena

/-
  A walk through the square of a node enters the quadrants in
  order before the node, and nothing that was met before. It
  meets new nodes in the order of their numbers. Those below
  `first` were met before the walk, and those below `last`
  are met after it.
-/
inductive Visits
    (arena : Arena) :
    (id first last : Nat) → Prop where
  | known
      {id first : Nat}
      (hKnown : id < first) :
      Visits arena id first first
  | leaf
      {id : Nat}
      {cell : Cell}
      (hLeaf : arena.entries[id]? = some (.leaf cell)) :
      Visits arena id id (id + 1)
  | node
      {id first afterSw afterSe afterNw : Nat}
      {level : Nat}
      {children : Quad NodeId}
      (hNode :
        arena.entries[id]? = some (.node level children))
      (hSw : Visits arena children.sw first afterSw)
      (hSe : Visits arena children.se afterSw afterSe)
      (hNw : Visits arena children.nw afterSe afterNw)
      (hNe : Visits arena children.ne afterNw id) :
      Visits arena id first (id + 1)

/- Four walks, each of which goes on from the one before. -/
inductive VisitsQuad
    (arena : Arena)
    (ids : Quad NodeId)
    (first last : Nat) : Prop where
  | intro
      {afterSw afterSe afterNw : Nat}
      (hSw : arena.Visits ids.sw first afterSw)
      (hSe : arena.Visits ids.se afterSw afterSe)
      (hNw : arena.Visits ids.nw afterSe afterNw)
      (hNe : arena.Visits ids.ne afterNw last)

variable {arena before after : Arena}
variable {id first last : Nat}
variable {ids : Quad NodeId}

theorem Visits.le
    (hVisits : arena.Visits id first last) :
    first ≤ last := by
  induction hVisits with
  | known _ => exact Nat.le_refl _
  | leaf _ => exact Nat.le_succ _
  | node _ _ _ _ _ ihSw ihSe ihNw ihNe => omega

/- The node itself is met in the end. -/
theorem Visits.lt
    (hVisits : arena.Visits id first last) :
    id < last := by
  cases hVisits with
  | known hKnown => exact hKnown
  | leaf _ => exact Nat.lt_succ_self id
  | node _ _ _ _ _ => exact Nat.lt_succ_self id

theorem VisitsQuad.le
    (hQuad : arena.VisitsQuad ids first last) :
    first ≤ last := by
  rcases hQuad with ⟨hSw, hSe, hNw, hNe⟩
  exact (hSw.le.trans hSe.le).trans (hNw.le.trans hNe.le)

/- Nothing is met on the way to what is known. -/
theorem Visits.last_eq
    (hVisits : arena.Visits id first last)
    (hKnown : id < first) :
    last = first := by
  cases hVisits with
  | known _ => rfl
  | leaf _ => exact absurd hKnown (Nat.lt_irrefl id)
  | node _ hSw hSe hNw hNe =>
      have hQuad : arena.VisitsQuad _ first id :=
        ⟨hSw, hSe, hNw, hNe⟩
      exact absurd hKnown (Nat.not_lt.mpr hQuad.le)

/- What is not known is met last. -/
theorem Visits.last_eq_succ
    (hVisits : arena.Visits id first last)
    (hNew : first ≤ id) :
    last = id + 1 := by
  cases hVisits with
  | known hKnown => exact absurd hNew (Nat.not_le.mpr hKnown)
  | leaf _ => rfl
  | node _ _ _ _ _ => rfl

theorem Visits.of_extends
    (hVisits : before.Visits id first last)
    (hExtends : Extends before after) :
    after.Visits id first last := by
  induction hVisits with
  | known hKnown => exact .known hKnown
  | leaf hLeaf => exact .leaf (hExtends _ _ hLeaf)
  | node hNode _ _ _ _ ihSw ihSe ihNw ihNe =>
      exact .node (hExtends _ _ hNode) ihSw ihSe ihNw ihNe

/- What four walks meet is met on one of them. -/
theorem VisitsQuad.exists_visits
    (hQuad : arena.VisitsQuad ids first last)
    {met : Nat}
    (hFirst : first ≤ met)
    (hLast : met < last) :
    ∃ child ∈ ids.toList, ∃ start stop,
      arena.Visits child start stop ∧
        start ≤ met ∧ met < stop ∧ stop ≤ last := by
  rcases hQuad with
    @⟨afterSw, afterSe, afterNw, hSw, hSe, hNw, hNe⟩
  have hLeSe := hSe.le
  have hLeNw := hNw.le
  have hLeNe := hNe.le
  by_cases hInSw : met < afterSw
  · exact ⟨ids.sw, by simp [Quad.toList], _, _, hSw, hFirst,
      hInSw, by omega⟩
  by_cases hInSe : met < afterSe
  · exact ⟨ids.se, by simp [Quad.toList], _, _, hSe,
      by omega, hInSe, by omega⟩
  by_cases hInNw : met < afterNw
  · exact ⟨ids.nw, by simp [Quad.toList], _, _, hNw,
      by omega, hInNw, by omega⟩
  · exact ⟨ids.ne, by simp [Quad.toList], _, _, hNe,
      by omega, hLast, Nat.le_refl _⟩

/- All nodes that are met are reached. -/
theorem Visits.reaches
    (hVisits : arena.Visits id first last)
    {met : Nat}
    (hFirst : first ≤ met)
    (hLast : met < last) :
    arena.Reaches id met := by
  -- The walks to the quadrants end before the node itself.
  induction last using Nat.strongRecOn
    generalizing id first with
  | ind last ih =>
      cases hVisits with
      | known _ => exact absurd hLast (Nat.not_lt.mpr hFirst)
      | leaf _ =>
          obtain rfl := Nat.le_antisymm hFirst
            (Nat.le_of_lt_succ hLast)
          exact .root
      | node hNode hSw hSe hNw hNe =>
          have hQuad : arena.VisitsQuad _ first id :=
            ⟨hSw, hSe, hNw, hNe⟩
          by_cases hBelow : met < id
          · rcases hQuad.exists_visits hFirst hBelow with
              ⟨child, hChild, start, stop, hWalk, hStart,
                hStop, hEnd⟩
            exact (Reaches.root.quadrant hNode hChild).trans
              (ih stop (Nat.lt_succ_of_le hEnd) hWalk hStart
                hStop)
          · obtain rfl : met = id := by omega
            exact .root

theorem VisitsQuad.of_extends
    (hQuad : before.VisitsQuad ids first last)
    (hExtends : Extends before after) :
    after.VisitsQuad ids first last := by
  rcases hQuad with ⟨hSw, hSe, hNw, hNe⟩
  exact ⟨hSw.of_extends hExtends, hSe.of_extends hExtends,
    hNw.of_extends hExtends, hNe.of_extends hExtends⟩

theorem VisitsQuad.last_eq
    (hQuad : arena.VisitsQuad ids first last)
    (hKnown : ∀ child ∈ ids.toList, child < first) :
    last = first := by
  rcases hQuad with ⟨hSw, hSe, hNw, hNe⟩
  rcases Quad.forall_mem_toList.mp hKnown with
    ⟨hSwOld, hSeOld, hNwOld, hNeOld⟩
  obtain rfl := hSw.last_eq hSwOld
  obtain rfl := hSe.last_eq hSeOld
  obtain rfl := hNw.last_eq hNwOld
  exact hNe.last_eq hNeOld

theorem VisitsQuad.exists_reaches
    (hQuad : arena.VisitsQuad ids first last)
    {met : Nat}
    (hFirst : first ≤ met)
    (hLast : met < last) :
    ∃ child ∈ ids.toList, arena.Reaches child met := by
  rcases hQuad.exists_visits hFirst hLast with
    ⟨child, hChild, start, stop, hWalk, hStart, hStop, -⟩
  exact ⟨child, hChild, hWalk.reaches hStart hStop⟩

end Arena

end LatticeGas

------------------------------------------------------------
-- Walks to a New Node
------------------------------------------------------------

namespace LatticeGas

namespace Arena

variable {arena before after : Arena}
variable {first : Nat}
variable {ids : Quad NodeId}
variable {level : Nat}

theorem Extends.size_le
    (hExtends : Extends before after) :
    before.size ≤ after.size := by
  apply Nat.le_of_not_lt
  intro hLess
  have hEntry := hExtends after.size _
    (Array.getElem?_eq_getElem hLess)
  exact Nat.lt_irrefl _
    (Array.getElem?_eq_some_iff.mp hEntry).choose

/- A leaf is known, or it is the one that comes next. -/
theorem visits_push_leaf
    (hArena : arena.WellFormed)
    {cell : Cell}
    {id : NodeId}
    (hPush : arena.push (.leaf cell) = .ok (id, after)) :
    after.Visits id arena.size after.size := by
  have hEntry := entries_push hPush hArena
  cases pushed_of_push_eq_ok hPush with
  | found =>
      exact .known (Array.getElem?_eq_some_iff.mp hEntry).choose
  | added =>
      rw [size_extended]
      exact .leaf hEntry

/-
  A node above four that were met is known, or it is the one
  that comes next. It cannot be among those that were met on
  the way to its quadrants, since they come before it.
-/
theorem VisitsQuad.push
    (hQuad : arena.VisitsQuad ids first arena.size)
    (hArena : arena.WellFormed)
    {level : Nat}
    {id : NodeId}
    (hPush :
      arena.push (.node level ids) = .ok (id, after)) :
    after.Visits id first after.size := by
  have hEntry := entries_push hPush hArena
  cases pushed_of_push_eq_ok hPush with
  | found =>
      have hSize :=
        (Array.getElem?_eq_some_iff.mp hEntry).choose
      have hBefore := hArena.child_lt _ level ids hEntry
      by_cases hOld : id < first
      · have hKnown :
            ∀ child ∈ ids.toList, child < first :=
          fun child hChild =>
            Nat.lt_trans (hBefore child hChild) hOld
        rw [hQuad.last_eq hKnown]
        exact .known hOld
      · rcases hQuad.exists_reaches (Nat.not_lt.mp hOld) hSize
          with ⟨child, hChild, hReaches⟩
        exact absurd (hBefore child hChild)
          (Nat.not_lt.mpr (hReaches.le hArena))
  | added =>
      rw [size_extended]
      rcases hQuad.of_extends (extends_extended arena _) with
        ⟨hSw, hSe, hNw, hNe⟩
      exact .node hEntry hSw hSe hNw hNe

end Arena

end LatticeGas

------------------------------------------------------------
-- Copies Are Numbered on a Walk
------------------------------------------------------------

namespace LatticeGas

namespace Copying

open Arena Building

/- All known copies are nodes of the target. -/
def Within
    (copies : Std.HashMap NodeId NodeId)
    (target : Arena) : Prop :=
  ∀ id copy : NodeId,
    copies[id]? = some copy → copy < target.size

/-
  If the copying of a node of the level comes to an end, the
  nodes that are added are those that a walk to the copy
  meets.
-/
def Walks
    (source : Arena)
    (level : Nat)
    (copyNode : NodeId → Copying NodeId) : Prop :=
  ∀ (copies : Std.HashMap NodeId NodeId) (target : Arena)
    (id : NodeId),
    target.WellFormed → Within copies target →
      source.HasLevel level id →
        Leaves (copyNode id copies) target
          fun outcome after =>
            Within outcome.2 after ∧
              after.Visits outcome.1 target.size after.size

variable {A B : Type}
variable {source target before after : Arena}
variable {copies : Std.HashMap NodeId NodeId}
variable {copyQuadrant : NodeId → Copying NodeId}
variable {id : NodeId}
variable {level first : Nat}

theorem Within.of_extends
    (hWithin : Within copies before)
    (hExtends : Extends before after) :
    Within copies after :=
  fun id copy hCopy =>
    Nat.lt_of_lt_of_le (hWithin id copy hCopy)
      hExtends.size_le

theorem within_empty
    (target : Arena) :
    Within ∅ target :=
  fun id copy hCopy =>
    absurd hCopy (getElem?_empty_ne id copy)

theorem Within.insert
    {copy : NodeId}
    (hWithin : Within copies target)
    (hCopy : copy < target.size) :
    Within (copies.insert id copy) target := by
  intro other found hFound
  rcases getElem?_insert_cases hFound with
    ⟨-, rfl⟩ | ⟨-, hOld⟩
  · exact hCopy
  · exact hWithin other found hOld

/- One computation with known copies after another. -/
theorem leaves_bind
    {copying : Copying A}
    {next : A → Copying B}
    {goal : A × Std.HashMap NodeId NodeId → Arena → Prop}
    {goal' : B × Std.HashMap NodeId NodeId → Arena → Prop}
    (hCopying : Leaves (copying copies) target goal)
    (hNext :
      ∀ value known after,
        Evolves target after → goal (value, known) after →
          Leaves (next value known) after goal') :
    Leaves ((copying >>= next) copies) target goal' :=
  hCopying.bind fun outcome after hAfter hGoal =>
    hNext outcome.1 outcome.2 after hAfter hGoal

/- Four copies are numbered on four walks. -/
theorem Walks.leaves_mapM
    (hQuadrant : Walks source level copyQuadrant)
    (hTarget : target.WellFormed)
    (hWithin : Within copies target)
    {children : Quad NodeId}
    (hChildren :
      ∀ child ∈ children.toList,
        source.HasLevel level child) :
    Leaves (children.mapM copyQuadrant copies) target
      fun outcome after =>
        Within outcome.2 after ∧
          after.VisitsQuad outcome.1 target.size
            after.size := by
  rcases Quad.forall_mem_toList.mp hChildren with
    ⟨hSwLevel, hSeLevel, hNwLevel, hNeLevel⟩
  unfold Quad.mapM
  refine leaves_bind (hQuadrant copies target _ hTarget
    hWithin hSwLevel) ?_
  rintro sw known afterSw hAfterSw ⟨hWithin, hSw⟩
  refine leaves_bind (hQuadrant known afterSw _
    hAfterSw.wellFormed hWithin hSeLevel) ?_
  rintro se known afterSe hAfterSe ⟨hWithin, hSe⟩
  refine leaves_bind (hQuadrant known afterSe _
    hAfterSe.wellFormed hWithin hNwLevel) ?_
  rintro nw known afterNw hAfterNw ⟨hWithin, hNw⟩
  refine leaves_bind (hQuadrant known afterNw _
    hAfterNw.wellFormed hWithin hNeLevel) ?_
  rintro ne known after hAfter ⟨hWithin, hNe⟩ outcome last
    hRun
  cases hRun
  have hKeepsNw := hAfter.keeps
  have hKeepsSe := hAfterNw.keeps.trans hKeepsNw
  have hKeepsSw := hAfterSe.keeps.trans hKeepsSe
  exact ⟨hAfter.wellFormed.evolves, hWithin,
    hSw.of_extends hKeepsSw, hSe.of_extends hKeepsSe,
    hNw.of_extends hKeepsNw, hNe⟩

/- What was met when it was built becomes known. -/
theorem leaves_learn
    {build : Building NodeId}
    (hBuild :
      Leaves build target fun copy after =>
        after.Visits copy first after.size)
    (hWithin : Within copies target)
    (id : NodeId) :
    Leaves
      ((do
          let copy ← build
          learn id copy
          return copy : Copying NodeId)
        copies)
      target fun outcome after =>
        Within outcome.2 after ∧
          after.Visits outcome.1 first after.size := by
  have hLifted :
      Leaves ((liftM build : Copying NodeId) copies) target
        fun outcome after =>
          outcome.2 = copies ∧
            after.Visits outcome.1 first after.size := by
    change Leaves
      (build >>= fun copy => pure (copy, copies)) target _
    apply hBuild.bind
    intro copy after hAfter hVisits outcome last hRun
    cases hRun
    exact ⟨hAfter.wellFormed.evolves, rfl, hVisits⟩
  refine leaves_bind hLifted ?_
  rintro copy known after hAfter ⟨rfl, hVisits⟩ outcome last
    hRun
  cases hRun
  exact ⟨hAfter.wellFormed.evolves,
    (hWithin.of_extends hAfter.keeps).insert hVisits.lt,
    hVisits⟩

theorem leaves_leaf_visits
    (hTarget : target.WellFormed)
    (cell : Cell) :
    Leaves (Building.leaf cell) target fun copy after =>
      after.Visits copy target.size after.size := by
  intro copy after hRun
  exact ⟨(leaves_leaf hTarget cell copy after hRun).1,
    visits_push_leaf hTarget hRun⟩

theorem leaves_node_visits
    (hTarget : target.WellFormed)
    {ids : Quad NodeId}
    (hQuad : target.VisitsQuad ids first target.size) :
    Leaves (Building.node ids) target fun copy after =>
      after.Visits copy first after.size := by
  intro copy after hRun
  rcases answered_of_bind hRun with ⟨level, -, hPush⟩
  exact ⟨(leaves_node hTarget ids copy after hRun).1,
    hQuad.push hTarget hPush⟩

/- A node is met after its quadrants. -/
theorem walks_copyStep
    (hSource : source.WellFormed)
    (hQuadrant :
      ∀ below, level = below + 1 →
        Walks source below copyQuadrant) :
    Walks source level (copyStep source copyQuadrant) := by
  intro copies target id hTarget hWithin hLevel
  cases hKnown : copies[id]? with
  | some copy =>
      intro outcome after hRun
      rw [copyStep_of_known hKnown] at hRun
      cases hRun
      exact ⟨hTarget.evolves, hWithin,
        .known (hWithin id copy hKnown)⟩
  | none =>
      rcases hLevel with ⟨entry, hEntry, hLevel⟩
      cases entry with
      | leaf cell =>
          rw [copyStep_of_leaf hKnown hEntry]
          exact leaves_learn
            (leaves_leaf_visits hTarget cell) hWithin id
      | node above children =>
          rcases hSource.accepts_entry id _ hEntry with
            ⟨below, rfl, -, hChildren⟩
          rw [copyStep_of_node hKnown hEntry]
          refine leaves_bind ((hQuadrant below
            hLevel.symm).leaves_mapM hTarget hWithin
              hChildren) ?_
          rintro ids known middle hMiddle ⟨hWithin, hQuad⟩
          exact leaves_learn (leaves_node_visits
            hMiddle.wellFormed hQuad) hWithin id

theorem walks_copy
    (hSource : source.WellFormed)
    {depth : Nat}
    (hDepth : level ≤ depth) :
    Walks source level (copy source depth) :=
  copy_induction (motive := Walks source)
    (fun _ _ => walks_copyStep hSource) hDepth

end Copying

namespace Building

open Arena

/- The copy of a square and what is added for it. -/
theorem leaves_copyTree
    {source target : Arena}
    (hSource : source.WellFormed)
    (hTarget : target.WellFormed)
    (root : NodeId) :
    Leaves (copyTree source root) target fun copy after =>
      after.Visits copy target.size after.size := by
  have hLevel :
      Leaves (liftM (source.level root) : Building Nat) target
        fun level after =>
          source.HasLevel level root ∧ after = target := by
    intro depth after hRun
    rcases lift_eq_ok hRun with ⟨hRoot, rfl⟩
    exact ⟨hTarget.evolves, hasLevel_of_level_eq hRoot, rfl⟩
  apply hLevel.bind
  rintro depth after - ⟨hRoot, rfl⟩
  refine Leaves.bind (Copying.walks_copy hSource
    (Nat.le_refl depth) ∅ after root hTarget
    (Copying.within_empty after) hRoot) ?_
  rintro ⟨copy, known⟩ last hLast ⟨-, hVisits⟩ id after hRun
  cases hRun
  exact ⟨hLast.wellFormed.evolves, hVisits⟩

end Building

end LatticeGas

------------------------------------------------------------
-- Copies of Copies
------------------------------------------------------------

namespace LatticeGas

namespace Copying

open Arena Building

/-
  What holds of a target at any time while it gets the copies
  of a source that was numbered on a walk itself. Its nodes
  are the first ones of the source, and each of them is known
  as its own copy.
-/
structure Repeats
    (source : Arena)
    (copies : Std.HashMap NodeId NodeId)
    (target : Arena) : Prop where
  wellFormed : target.WellFormed
  interning_eq : target.interning = source.interning
  begins : Extends target source
  copies_eq :
    ∀ id : Nat,
      copies[id]? = if id < target.size then some id else none

/-
  The computation copies a node to its own number, and with
  it all nodes that are met on a walk to it.
-/
def Reproduces
    (source : Arena)
    (copyNode : NodeId → Copying NodeId)
    (id : NodeId)
    (first last : Nat) : Prop :=
  ∀ (copies : Std.HashMap NodeId NodeId) (target : Arena),
    Repeats source copies target → target.size = first →
      ∃ known after,
        copyNode id copies target =
            .ok ((id, known), after) ∧
          Repeats source known after ∧ after.size = last

/- So it does with all nodes of the level on a walk. -/
def ReproducesLevel
    (source : Arena)
    (level : Nat)
    (copyNode : NodeId → Copying NodeId) : Prop :=
  ∀ id first last : Nat,
    source.Visits id first last → source.HasLevel level id →
      Reproduces source copyNode id first last

variable {source target : Arena}
variable {copies : Std.HashMap NodeId NodeId}
variable {copyQuadrant : NodeId → Copying NodeId}

theorem repeats_new
    (source : Arena)
    (memoizing : Bool) :
    Repeats source ∅ (new source.interning memoizing) where
  wellFormed := wellFormed_new _ memoizing
  interning_eq := rfl
  begins := fun id entry hEntry => by
    simp [new] at hEntry
  copies_eq := fun id => by
    rw [Std.HashMap.getElem?_empty]
    exact (if_neg (Nat.not_lt_zero id)).symm

/- The entry that comes next is accepted. -/
theorem Repeats.accepts
    (hRepeats : Repeats source copies target)
    (hSource : source.WellFormed)
    {entry : Entry}
    (hNext : source.entries[target.size]? = some entry) :
    target.Accepts entry := by
  cases entry with
  | leaf cell => trivial
  | node level children =>
      rcases hSource.accepts_entry _ _ hNext with
        ⟨below, hLevel, hMax, hChildren⟩
      refine ⟨below, hLevel, hMax, ?_⟩
      intro child hChild
      have hLess :=
        hSource.child_lt _ level children hNext child hChild
      have hEntry := Array.getElem?_eq_getElem hLess
      have hFound : target.HasLevel _ child :=
        ⟨_, hEntry, rfl⟩
      rw [(hChildren child hChild).unique
        (hFound.of_extends hRepeats.begins)]
      exact hFound

/- It is not there yet, and so it gets the next number. -/
theorem Repeats.push
    (hRepeats : Repeats source copies target)
    (hSource : source.WellFormed)
    {entry : Entry}
    (hNext : source.entries[target.size]? = some entry) :
    ∃ after,
      target.push entry = .ok (target.size, after) ∧
        Repeats source
          (copies.insert target.size target.size) after ∧
        after.size = target.size + 1 := by
  have hAccepts := hRepeats.accepts hSource hNext
  have hLast := (Array.getElem?_eq_some_iff.mp hNext).choose
  have hRoom : target.size < nodeLimit :=
    Nat.lt_of_lt_of_le hLast hSource.size_le
  have hPushed := pushed_push target entry
  generalize target.push entry = outcome at hPushed ⊢
  cases hPushed with
  | full _ hFull => exact absurd hRoom (Nat.not_lt.mpr hFull)
  | found _ hShares hFound =>
      have hOld :=
        ((hRepeats.wellFormed.index_iff entry _).mp hFound).2
      have hLess := (Array.getElem?_eq_some_iff.mp hOld).choose
      have hSame := hSource.id_eq_of_entry
        (hRepeats.interning_eq.symm.trans hShares)
        (hRepeats.begins _ entry hOld) hNext
      exact absurd hSame (Nat.ne_of_lt hLess)
  | added hNew =>
      refine ⟨target.extended entry, rfl,
        ⟨wellFormed_extended hRepeats.wellFormed hAccepts hNew
            hRoom,
          hRepeats.interning_eq, ?_, ?_⟩,
        size_extended _ _⟩
      · intro id other hOther
        rw [entries_extended_eq_some_iff] at hOther
        rcases hOther with hOld | ⟨rfl, rfl⟩
        · exact hRepeats.begins id other hOld
        · exact hNext
      · intro id
        have hId := hRepeats.copies_eq id
        rw [Std.HashMap.getElem?_insert, hId, size_extended]
        by_cases hLast : target.size = id
        · simp [hLast]
        · have hLess :
              id < target.size + 1 ↔ id < target.size := by
            omega
          simp [hLast, hLess]

/- The four quadrants of a node keep their numbers. -/
theorem Repeats.mapM
    (hRepeats : Repeats source copies target)
    {children : Quad NodeId}
    {afterSw afterSe afterNw last : Nat}
    (hSw :
      Reproduces source copyQuadrant children.sw target.size
        afterSw)
    (hSe :
      Reproduces source copyQuadrant children.se afterSw
        afterSe)
    (hNw :
      Reproduces source copyQuadrant children.nw afterSe
        afterNw)
    (hNe :
      Reproduces source copyQuadrant children.ne afterNw
        last) :
    ∃ known after,
      children.mapM copyQuadrant copies target =
          .ok ((children, known), after) ∧
        Repeats source known after ∧ after.size = last := by
  rcases hSw copies target hRepeats rfl with
    ⟨knownSw, targetSw, hRunSw, hRepeatsSw, hSizeSw⟩
  rcases hSe knownSw targetSw hRepeatsSw hSizeSw with
    ⟨knownSe, targetSe, hRunSe, hRepeatsSe, hSizeSe⟩
  rcases hNw knownSe targetSe hRepeatsSe hSizeSe with
    ⟨knownNw, targetNw, hRunNw, hRepeatsNw, hSizeNw⟩
  rcases hNe knownNw targetNw hRepeatsNw hSizeNw with
    ⟨known, after, hRunNe, hRepeatsNe, hSizeNe⟩
  refine ⟨known, after, ?_, hRepeatsNe, hSizeNe⟩
  unfold Quad.mapM
  rw [run_bind_eq hRunSw, run_bind_eq hRunSe,
    run_bind_eq hRunNw, run_bind_eq hRunNe]
  rfl

/- The node that comes next gets its own number. -/
theorem Repeats.learn
    (hRepeats : Repeats source copies target)
    (hSource : source.WellFormed)
    {entry : Entry}
    (hNext : source.entries[target.size]? = some entry)
    {build : Building NodeId}
    (hBuild : build target = target.push entry) :
    ∃ known after,
      (do
          let copy ← build
          learn target.size copy
          return copy : Copying NodeId)
        copies target = .ok ((target.size, known), after) ∧
        Repeats source known after ∧
        after.size = target.size + 1 := by
  rcases hRepeats.push hSource hNext with
    ⟨after, hPush, hAfter, hSize⟩
  rw [hPush] at hBuild
  exact ⟨_, after, learn_eq_ok hBuild, hAfter, hSize⟩

/-
  A copy of what was numbered on a walk goes the same way, and
  so it has the same numbers.
-/
theorem reproduces_copyStep
    (hSource : source.WellFormed)
    {level : Nat}
    (hQuadrant :
      ∀ below, level = below + 1 →
        ReproducesLevel source below copyQuadrant) :
    ReproducesLevel source level
      (copyStep source copyQuadrant) := by
  rintro id first last hVisits hLevel copies target hRepeats
    rfl
  cases hVisits with
  | known hKnown =>
      have hFound := hRepeats.copies_eq id
      rw [if_pos hKnown] at hFound
      exact ⟨copies, target, copyStep_of_known hFound,
        hRepeats, rfl⟩
  | leaf hLeaf =>
      have hUnknown := hRepeats.copies_eq target.size
      rw [if_neg (Nat.lt_irrefl _)] at hUnknown
      rw [copyStep_of_leaf hUnknown hLeaf]
      exact hRepeats.learn hSource hLeaf rfl
  | node hNode hSw hSe hNw hNe =>
      rcases hSource.accepts_entry id _ hNode with
        ⟨below, rfl, -, hChildren⟩
      have hBelow := hQuadrant below
        (hLevel.unique ⟨_, hNode, rfl⟩)
      rcases Quad.forall_mem_toList.mp hChildren with
        ⟨hSwLevel, hSeLevel, hNwLevel, hNeLevel⟩
      have hQuad : source.VisitsQuad _ target.size id :=
        ⟨hSw, hSe, hNw, hNe⟩
      have hUnknown := hRepeats.copies_eq id
      rw [if_neg (Nat.not_lt.mpr hQuad.le)] at hUnknown
      rcases hRepeats.mapM (hBelow _ _ _ hSw hSwLevel)
          (hBelow _ _ _ hSe hSeLevel)
          (hBelow _ _ _ hNw hNwLevel)
          (hBelow _ _ _ hNe hNeLevel) with
        ⟨known, middle, hRun, hMiddle, rfl⟩
      have hNodeRun :=
        node_eq_push_of_accepts
          (hMiddle.accepts hSource hNode)
      rw [copyStep_of_node hUnknown hNode, run_bind_eq hRun]
      exact hMiddle.learn hSource hNode hNodeRun

theorem reproduces_copy
    (hSource : source.WellFormed)
    {level depth : Nat}
    (hDepth : level ≤ depth) :
    ReproducesLevel source level (copy source depth) :=
  copy_induction (motive := ReproducesLevel source)
    (fun _ _ => reproduces_copyStep hSource) hDepth

end Copying

namespace Building

open Arena

/-
  A copy of an arena that was numbered on a walk has the same
  nodes, if the copy shares nodes as the arena does.
-/
theorem copyTree_of_visits
    {source : Arena}
    (hSource : source.WellFormed)
    {root : NodeId}
    (hVisits : source.Visits root 0 source.size)
    (memoizing : Bool) :
    ∃ after,
      copyTree source root
          (new source.interning memoizing) =
        .ok (root, after) ∧
        after.entries = source.entries := by
  have hEntry := Array.getElem?_eq_getElem hVisits.lt
  have hLevel : source.HasLevel _ root := ⟨_, hEntry, rfl⟩
  rcases Copying.reproduces_copy hSource (Nat.le_refl _)
      _ _ _ hVisits hLevel ∅ _
      (Copying.repeats_new source memoizing) rfl with
    ⟨known, after, hRun, hRepeats, hSize⟩
  refine ⟨after, ?_, ?_⟩
  · unfold copyTree
    rw [hLevel.level_eq]
    change (Copying.copy source _ root ∅ >>= fun made =>
      Pure.pure made.1) _ = _
    rw [bind_eq_of_run_eq hRun]
    rfl
  · apply Array.ext_getElem?
    intro id
    by_cases hId : id < after.size
    · have hFound := Array.getElem?_eq_getElem hId
      rw [hRepeats.begins id _ hFound]
      exact hFound
    · have hBeyond := hId
      rw [hSize] at hBeyond
      rw [Array.getElem?_eq_none (Nat.not_lt.mp hId),
        Array.getElem?_eq_none (Nat.not_lt.mp hBeyond)]

end Building

end LatticeGas

------------------------------------------------------------
-- Tidy Arenas
------------------------------------------------------------

namespace LatticeGas

namespace Arena

/-
  The arena holds one square and nothing else. Its nodes were
  numbered on a walk to the node of this square, and none of
  them has a step.
-/
structure Tidy
    (arena : Arena)
    (root : NodeId) : Prop where
  visits : arena.Visits root 0 arena.size
  memoized_eq : arena.stats.memoized = 0

variable {arena source : Arena}
variable {root : NodeId}

theorem Tidy.reaches
    (hTidy : arena.Tidy root)
    {id : NodeId}
    (hId : id < arena.size) :
    arena.Reaches root id :=
  hTidy.visits.reaches (Nat.zero_le id) hId

/- The node of the square comes last. -/
theorem Tidy.root_eq
    (hTidy : arena.Tidy root) :
    root + 1 = arena.size :=
  (hTidy.visits.last_eq_succ (Nat.zero_le root)).symm

/- With shared nodes there is one for each square below it. -/
theorem Tidy.size_eq_encard
    (hTidy : arena.Tidy root)
    (hArena : arena.WellFormed)
    (hShares : arena.interning = true) :
    (arena.size : ℕ∞) = (arena.piecesBelow root).encard := by
  have hPieces : arena.pieces = arena.piecesBelow root := by
    ext piece
    constructor
    · rintro ⟨id, hId⟩
      exact ⟨id, hTidy.reaches hId.hasLevel.lt_size, hId⟩
    · rintro ⟨id, -, hId⟩
      exact ⟨id, hId⟩
  rw [← hPieces, hArena.encard_pieces hShares]

/- What was added to nothing does not have steps. -/
theorem LeavesSteps.memoized_eq_zero
    {interning memoizing : Bool}
    (hSteps : LeavesSteps (new interning memoizing) arena) :
    arena.stats.memoized = 0 := by
  have hNone := hSteps.steps_eq
  simp only [stats, hNone, new, Array.empty_append,
    Array.countP_replicate]
  rfl

end Arena

namespace Building

open Arena

/- A copy that starts from nothing is tidy. -/
theorem exists_tidy_copyTree
    {source : Arena}
    (hSource : source.WellFormed)
    {root : NodeId}
    {level : Nat}
    {square : Square level}
    (hSquare : source.Denotes root square)
    (interning memoizing : Bool) :
    ∃ copy after,
      copyTree source root (new interning memoizing) =
          .ok (copy, after) ∧
        Evolves (new interning memoizing) after ∧
        after.Denotes copy square ∧
        after.Tidy copy ∧ after.size ≤ source.size := by
  have hNew := wellFormed_new interning memoizing
  have hEmpty : (new interning memoizing).size = 0 := rfl
  have hReached := encard_reaches_le hSource
    hSquare.hasLevel.lt_size
  rcases copyTree_cases hSource hNew hSquare with
    ⟨-, known, middle, id, hLeft, hKnown, hReaches⟩ |
    ⟨copy, known, after, hRun, -, hTracks, hCopy, hKnown⟩
  · -- A copy of all nodes takes no more room than they do.
    have hLess := hLeft.lt_add_encard hKnown hReaches
    have hSize := hLess.trans_le (add_le_add_right hReached _)
    rw [hEmpty, Nat.cast_zero, zero_add, Nat.cast_lt] at hSize
    exact absurd hSource.size_le (Nat.not_le.mpr hSize)
  · have hSize := hTracks.size_le_add_encard
    simp only [hKnown, hEmpty, Nat.cast_zero, zero_add]
      at hSize
    have hVisits :=
      (leaves_copyTree hSource hNew root copy after hRun).2
    exact ⟨copy, after, hRun, hTracks.evolves,
      hTracks.mirrors.denotes hCopy hSquare,
      ⟨hVisits, hTracks.steps.memoized_eq_zero⟩,
      Nat.cast_le.mp (hSize.trans hReached)⟩

end Building

end LatticeGas

import LatticeGas.Proofs.Arena.Twins

/-
  This file defines the operations that add nodes to an arena
  and are given nodes by their numbers, known or not. In twin
  arenas that share nodes, they give the same numbers and the
  same faults.

  Key definitions include:
    * `Building.Op`
    * `Building.Op.trace`
    * `Arena.SharingTwins`

  Key theorems include:
    * `Arena.SharingTwins.concur_op`
    * `Building.Op.trace_new_eq`
-/

------------------------------------------------------------
-- Operations by Number
------------------------------------------------------------

namespace LatticeGas

namespace Building

/-
  The operations that add nodes to an arena. Nodes are given
  by their numbers, and nothing is known about them.
-/
inductive Op where
  | leaf (cell : Cell)
  | node (children : Quad NodeId)
  | wall (level : Nat)
  | advance (id : NodeId)
  | copy
      (source : Arena)
      (hSource : source.WellFormed)
      (root : NodeId)

namespace Op

/- What an operation does to an arena. -/
def build : Op → Building NodeId
| .leaf cell => Building.leaf cell
| .node children => Building.node children
| .wall level => Building.wall level
| .advance id => advanceCenter id
| .copy source _ root => copyTree source root

/-
  The numbers that several operations give and the nodes that
  are there after each of them. A fault is the end.
-/
def trace :
    List Op → Arena →
      List (Except Fault (NodeId × Array Entry))
| [], _ => []
| op :: ops, arena =>
    match op.build arena with
    | .error fault => [.error fault]
    | .ok (id, after) =>
        .ok (id, after.entries) :: trace ops after

end Op

end Building

end LatticeGas

------------------------------------------------------------
-- Twins That Share Nodes
------------------------------------------------------------

namespace LatticeGas

namespace Arena

/- Twins that both share nodes. -/
structure SharingTwins (left right : Arena) : Prop where
  twins : Twins left right
  shares_right : right.interning = true

variable {left right : Arena}
variable {id : NodeId}
variable {level : Nat}

theorem SharingTwins.entries_eq
    (hTwins : SharingTwins left right) :
    left.entries = right.entries :=
  hTwins.twins.entries_eq hTwins.shares_right

theorem SharingTwins.denotes_right
    (hTwins : SharingTwins left right)
    {square : Square level}
    (hSquare : left.Denotes id square) :
    right.Denotes id square := by
  apply hSquare.of_extends
  intro other entry hEntry
  rw [← hTwins.entries_eq]
  exact hEntry

theorem SharingTwins.level_eq
    (hTwins : SharingTwins left right)
    (id : NodeId) :
    left.level id = right.level id := by
  unfold Arena.level entry size
  rw [hTwins.entries_eq]

/-
  An outcome for both arenas: the same number, and twins that
  share nodes.
-/
def SameNode (first second : NodeId × Arena) : Prop :=
  first.1 = second.1 ∧ SharingTwins first.2 second.2

/- One square is one number. -/
theorem SharingTwins.sameNode
    (hTwins : SharingTwins left right)
    {square : Square level}
    {first second : NodeId × Arena}
    (hAgree : Agree left right square first second) :
    SameNode first second := by
  have hShares :=
    hAgree.interning_eq.trans hTwins.shares_right
  exact ⟨hAgree.twins.id_eq hShares hAgree.denotes_left
    hAgree.denotes_right, hAgree.twins, hShares⟩

/- With one number for it, no fault is spared. -/
theorem SharingTwins.concur_sameNode
    (hTwins : SharingTwins left right)
    {agree : NodeId × Arena → NodeId × Arena → Prop}
    {outcome outcome' : Except Fault (NodeId × Arena)}
    (hConcur :
      Concur (Spared right.interning) agree outcome outcome')
    (hAgree :
      ∀ first second, agree first second →
        ∃ (level : Nat) (square : Square level),
          Agree left right square first second) :
    Concur (fun _ => False) SameNode outcome outcome' := by
  rw [hTwins.shares_right] at hConcur
  refine hConcur.imp not_spared_true ?_
  intro first second hSame
  rcases hAgree first second hSame with ⟨_, _, hNode⟩
  exact hTwins.sameNode hNode

open Building

theorem SharingTwins.concur_node
    (hTwins : SharingTwins left right)
    (ids : Quad NodeId) :
    Concur (fun _ => False) SameNode (node ids left)
      (node ids right) := by
  have hParent :
      left.parentLevel ids = right.parentLevel ids := by
    unfold parentLevel
    simp only [hTwins.level_eq]
  cases hAbove : left.parentLevel ids with
  | error fault =>
      have hFault :
          ∀ arena : Arena,
            arena.parentLevel ids = .error fault →
              node ids arena = .error fault := by
        intro arena hError
        unfold node
        rw [hError]
        rfl
      have hAboveRight := hParent.symm.trans hAbove
      rw [hFault left hAbove, hFault right hAboveRight]
      exact .error fault
  | ok above =>
      have hArena :=
        hTwins.twins.traced_left.sound.wellFormed
      rcases hArena.exists_denotesQuad hAbove with
        ⟨level, squares, -, -, hIds⟩
      have hIds' : right.DenotesQuad ids squares :=
        ⟨hTwins.denotes_right hIds.sw,
          hTwins.denotes_right hIds.se,
          hTwins.denotes_right hIds.nw,
          hTwins.denotes_right hIds.ne⟩
      exact hTwins.concur_sameNode
        (hTwins.twins.concur_node hIds hIds')
        fun _ _ hAgree => ⟨_, _, hAgree⟩

theorem SharingTwins.concur_advanceCenter
    (hTwins : SharingTwins left right)
    (id : NodeId) :
    Concur (fun _ => False) SameNode
      (advanceCenter id left)
      (advanceCenter id right) := by
  have hSame := hTwins.level_eq id
  cases hLevel : left.level id with
  | error fault =>
      rw [hLevel] at hSame
      rcases exists_advanceCenter_eq with ⟨advance, hAdvance⟩
      rw [hAdvance, advanceStep_of_error hLevel,
        advanceStep_of_error hSame.symm]
      exact .error fault
  | ok level =>
      have hArena :=
        hTwins.twins.traced_left.sound.wellFormed
      rcases hArena.exists_denotes
          (hasLevel_of_level_eq hLevel) with ⟨square, hId⟩
      exact hTwins.concur_sameNode
        (hTwins.twins.concur_advanceCenter hId
          (hTwins.denotes_right hId))
        fun _ _ hMiddle => hMiddle

theorem SharingTwins.concur_copyTree
    (hTwins : SharingTwins left right)
    {source : Arena}
    (hSource : source.WellFormed)
    (root : NodeId) :
    Concur (fun _ => False) SameNode
      (copyTree source root left)
      (copyTree source root right) := by
  cases hLevel : source.level root with
  | error fault =>
      have hFault :
          ∀ target : Arena,
            copyTree source root target = .error fault := by
        intro target
        unfold copyTree
        rw [hLevel]
        rfl
      rw [hFault, hFault]
      exact .error fault
  | ok level =>
      rcases hSource.exists_denotes
          (hasLevel_of_level_eq hLevel) with ⟨square, hRoot⟩
      exact hTwins.concur_sameNode
        (hTwins.twins.concur_copyTree hSource hSource hRoot
          hRoot)
        fun _ _ hAgree => ⟨_, _, hAgree⟩

/- Every operation gives the same number in both arenas. -/
theorem SharingTwins.concur_op
    (hTwins : SharingTwins left right)
    (op : Op) :
    Concur (fun _ => False) SameNode (op.build left)
      (op.build right) := by
  cases op with
  | leaf cell =>
      exact hTwins.concur_sameNode
        (hTwins.twins.concur_leaf cell)
        fun _ _ hAgree => ⟨_, _, hAgree⟩
  | node children => exact hTwins.concur_node children
  | wall level =>
      exact hTwins.concur_sameNode
        (hTwins.twins.concur_wall level)
        fun _ _ hAgree => ⟨_, _, hAgree⟩
  | advance id => exact hTwins.concur_advanceCenter id
  | copy source hSource root =>
      exact hTwins.concur_copyTree hSource root

end Arena

end LatticeGas

------------------------------------------------------------
-- Traces of Twins
------------------------------------------------------------

namespace LatticeGas

namespace Building

open Arena

/- What is done to twins that share nodes has one trace. -/
theorem Op.trace_eq
    {left right : Arena}
    (hTwins : SharingTwins left right)
    (ops : List Op) :
    trace ops left = trace ops right := by
  induction ops generalizing left right with
  | nil => rfl
  | cons op ops ih =>
      have hConcur := hTwins.concur_op op
      unfold trace
      generalize op.build left = first at hConcur ⊢
      generalize op.build right = second at hConcur ⊢
      cases hConcur with
      | error fault => rfl
      | spared _ hSpared => exact hSpared.elim
      | ok hSame =>
          rcases hSame with ⟨hId, hAfter⟩
          simp only [hId, hAfter.entries_eq, ih hAfter]

/-
  Whether steps are remembered does not show in the numbers
  and the nodes of an arena that shares nodes.
-/
theorem Op.trace_new_eq
    (ops : List Op) :
    trace ops (new true true) =
      trace ops (new true false) :=
  trace_eq ⟨twins_new true true false, rfl⟩ ops

/- Without sharing, a step that is repeated adds new nodes. -/
example :
    let ops : List Op :=
      [.leaf .empty, .node (Quad.all 0), .node (Quad.all 1),
        .advance 2, .advance 2]
    let ids := fun arena =>
      (Op.trace ops arena).map (Except.map Prod.fst)
    ids (new false true) =
        [.ok 0, .ok 1, .ok 2, .ok 7, .ok 7] ∧
      ids (new false false) =
        [.ok 0, .ok 1, .ok 2, .ok 7, .ok 12] :=
  ⟨rfl, rfl⟩

end Building

end LatticeGas

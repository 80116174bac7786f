import LatticeGas.Arena.Square
import LatticeGas.Square

/-
  This file defines the square that a node stands for, and
  shows that cells are read from that square.

  Key definitions include:
    * `Arena.square?`
    * `Arena.Extends`

  Key theorems include:
    * `Arena.square?_of_extends`
    * `Arena.lookup_of_square?`
-/

------------------------------------------------------------
-- Squares of Nodes
------------------------------------------------------------

namespace LatticeGas

namespace Arena

/- The square of a node, if it has one of the given level. -/
def square? (arena : Arena) :
    (level : Nat) → NodeId → Option (Square level)
| 0, id =>
    match arena.entries[id]? with
    | some (.leaf cell) => some (.leaf cell)
    | _ => none
| level + 1, id =>
    match arena.entries[id]? with
    | some (.node above children) =>
        if above = level + 1 then do
          let sw ← arena.square? level children.sw
          let se ← arena.square? level children.se
          let nw ← arena.square? level children.nw
          let ne ← arena.square? level children.ne
          return .node sw se nw ne
        else
          none
    | _ => none

/- The squares of level zero are those of the leaves. -/
theorem square?_zero_eq_some_iff
    (arena : Arena)
    (id : NodeId)
    (square : Square 0) :
    arena.square? 0 id = some square ↔
      arena.entries[id]? = some (.leaf square.value) := by
  rcases square with ⟨cell⟩
  rcases hEntry : arena.entries[id]? with _ | entry
  · simp [square?, hEntry]
  · cases entry with
    | leaf other =>
        simp [square?, hEntry, Square.value]
    | node level children =>
        simp [square?, hEntry]

/- The square of a node is made of those of its quadrants. -/
theorem square?_succ_eq_some_iff
    (arena : Arena)
    (level : Nat)
    (id : NodeId)
    (square : Square (level + 1)) :
    arena.square? (level + 1) id = some square ↔
      ∃ children,
        arena.entries[id]? =
            some (.node (level + 1) children) ∧
          arena.square? level children.sw =
            some square.quadrants.sw ∧
          arena.square? level children.se =
            some square.quadrants.se ∧
          arena.square? level children.nw =
            some square.quadrants.nw ∧
          arena.square? level children.ne =
            some square.quadrants.ne := by
  rcases hEntry : arena.entries[id]? with _ | entry
  · simp [square?, hEntry]
  · cases entry with
    | leaf cell =>
        simp [square?, hEntry]
    | node above children =>
        by_cases hAbove : above = level + 1
        · subst hAbove
          cases square with
          | node sw se nw ne =>
              simp only [square?, hEntry, if_true,
                Square.quadrants, Option.bind_eq_bind,
                Option.bind_eq_some_iff, Option.some.injEq,
                Entry.node.injEq, true_and]
              constructor
              · rintro ⟨_, hSw, _, hSe, _, hNw, _, hNe, hSquare⟩
                cases hSquare
                exact ⟨children, rfl, hSw, hSe, hNw, hNe⟩
              · rintro ⟨_, rfl, hSw, hSe, hNw, hNe⟩
                exact ⟨sw, hSw, se, hSe, nw, hNw, ne, hNe, rfl⟩
        · simp [square?, hEntry, hAbove]

end Arena

end LatticeGas

------------------------------------------------------------
-- Growing Arenas
------------------------------------------------------------

namespace LatticeGas

namespace Arena

/- All nodes of one arena are nodes of another one. -/
def Extends (before after : Arena) : Prop :=
  ∀ (id : NodeId) (entry : Entry),
    before.entries[id]? = some entry →
      after.entries[id]? = some entry

theorem Extends.refl
    (arena : Arena) :
    Extends arena arena :=
  fun _ _ hEntry => hEntry

theorem Extends.trans
    {first second third : Arena}
    (hFirst : Extends first second)
    (hSecond : Extends second third) :
    Extends first third :=
  fun id entry hEntry =>
    hSecond id entry (hFirst id entry hEntry)

/- A node keeps its square while nodes are added. -/
theorem square?_of_extends
    {before after : Arena}
    (hExtends : Extends before after)
    {level : Nat}
    {id : NodeId}
    {square : Square level}
    (hSquare : before.square? level id = some square) :
    after.square? level id = some square := by
  induction level generalizing id with
  | zero =>
      rw [square?_zero_eq_some_iff] at hSquare ⊢
      exact hExtends id _ hSquare
  | succ level ih =>
      rcases (square?_succ_eq_some_iff before level id
          square).mp hSquare with
        ⟨children, hEntry, hSw, hSe, hNw, hNe⟩
      exact (square?_succ_eq_some_iff after level id
        square).mpr
          ⟨children, hExtends id _ hEntry,
            ih hSw, ih hSe, ih hNw, ih hNe⟩

end Arena

end LatticeGas

------------------------------------------------------------
-- Reading Squares
------------------------------------------------------------

namespace LatticeGas

namespace Arena

/- Reading a cell of a node reads its square. -/
theorem lookup_of_square?
    {arena : Arena}
    {level : Nat}
    {id : NodeId}
    {square : Square level}
    (hSquare : arena.square? level id = some square)
    (x y : Nat) :
    arena.lookup level id x y =
      .ok (square.cellAt x y) := by
  induction level generalizing id x y with
  | zero =>
      rw [square?_zero_eq_some_iff] at hSquare
      simp only [lookup, value, entry, hSquare, bind,
        Except.bind, pure, Except.pure, Square.cellAt]
  | succ level ih =>
      rcases (square?_succ_eq_some_iff arena level id
          square).mp hSquare with
        ⟨children, hEntry, hSw, hSe, hNw, hNe⟩
      have hHalf : level + 1 - 1 = level := by omega
      simp only [lookup, entry, hEntry, bind, Except.bind,
        hHalf, Square.cellAt]
      apply ih
      by_cases hEast : sideOfLevel level ≤ x
      · by_cases hNorth : sideOfLevel level ≤ y
        · simpa [hEast, hNorth, Quad.quadrant] using hNe
        · simpa [hEast, hNorth, Quad.quadrant] using hSe
      · by_cases hNorth : sideOfLevel level ≤ y
        · simpa [hEast, hNorth, Quad.quadrant] using hNw
        · simpa [hEast, hNorth, Quad.quadrant] using hSw

end Arena

end LatticeGas

import LatticeGas.Proofs.Arena.Appending

/-
  This file bounds the number of nodes that a computation may
  add to an arena. Within its bound a computation does not
  use up the numbers for nodes, unless there are too few of
  them left. Bounds are added up along a computation, and no
  more than that is needed to tell that it comes to its end.

  Key definitions include:
    * `Building.Weighs`
    * `Building.Costs`

  Key theorems include:
    * `Building.Weighs.bind`
    * `Building.Costs.ensured`
    * `Building.costs_node`
    * `Building.costs_wall`
    * `Building.costs_advanceCenter`
-/

------------------------------------------------------------
-- What a Computation May Add
------------------------------------------------------------

namespace LatticeGas

namespace Building

open Arena

/-
  The weight of the arena grows by no more than the amount.
  If the numbers for nodes are used up, then what it may grow
  to is more than there are numbers.
-/
def Weighs
    {A : Type}
    (weight : Arena → Nat)
    (build : Building A)
    (arena : Arena)
    (amount : Nat) : Prop :=
  Barring
    (fun fault =>
      fault.Exhaustion → nodeLimit < weight arena + amount)
    (fun result => weight result.2 ≤ weight arena + amount)
    (build arena)

/-
  At most so many nodes are added. If the numbers for nodes
  are used up, then there were fewer of them left.
-/
def Costs
    {A : Type}
    (build : Building A)
    (arena : Arena)
    (amount : Nat) : Prop :=
  Weighs Arena.size build arena amount

variable {A B : Type}
variable {weight : Arena → Nat}
variable {arena : Arena}
variable {amount rest : Nat}

theorem Weighs.mono
    {build : Building A}
    {more : Nat}
    (hBuild : Weighs weight build arena amount)
    (hMore : amount ≤ more) :
    Weighs weight build arena more := by
  refine Barring.imp hBuild ?_ ?_
  · intro fault hFault hExhausted
    have hLacks := hFault hExhausted
    omega
  · intro result _ hSize
    omega

/- The weight of the arena at the end. -/
theorem Weighs.weight_le
    {build : Building A}
    (hBuild : Weighs weight build arena amount)
    {value : A}
    {after : Arena}
    (hRun : build arena = .ok (value, after)) :
    weight after ≤ weight arena + amount := by
  unfold Weighs at hBuild
  rw [hRun] at hBuild
  exact hBuild

/- What one computation and the next add, both of them add. -/
theorem Weighs.bind
    {build : Building A}
    {next : A → Building B}
    (hBuild : Weighs weight build arena amount)
    (hNext :
      ∀ value after,
        build arena = .ok (value, after) →
          Weighs weight (next value) after rest) :
    Weighs weight (build >>= next) arena
      (amount + rest) := by
  unfold Weighs
  rw [bind_apply]
  refine Barring.bind (Barring.imp
    (hBuild.mono (Nat.le_add_right amount rest))
    (fun _ hFault => hFault) fun result _ hSize => hSize) ?_
  rintro ⟨value, after⟩ hRun -
  have hSize := hBuild.weight_le hRun
  refine Barring.imp (hNext value after hRun) ?_ ?_
  · intro fault hFault hExhausted
    have hLacks := hFault hExhausted
    omega
  · intro result _ hLast
    omega

/- Nothing else than adding a node uses up a number. -/
theorem weighs_bind_lift
    {outcome : Except Fault A}
    {next : A → Building B}
    (hOutcome :
      Barring (fun fault => ¬ fault.Exhaustion)
        (fun _ => True) outcome)
    (hNext :
      ∀ value, outcome = .ok value →
        Weighs weight (next value) arena rest) :
    Weighs weight ((liftM outcome : Building A) >>= next)
      arena rest := by
  cases outcome with
  | error fault =>
      exact fun hExhausted => absurd hExhausted hOutcome
  | ok value => exact hNext value rfl

/- What is ensured comes about, or else numbers are lacking. -/
theorem Costs.ensured
    {build : Building A}
    {goal : A × Arena → Prop}
    (hBuild : Costs build arena amount)
    (hGoal : Barring Fault.Exhaustion goal (build arena)) :
    Barring (arena.Lacks amount)
      (fun result =>
        result.2.size ≤ arena.size + amount ∧ goal result)
      (build arena) := by
  refine (Barring.both hBuild hGoal).imp ?_ fun _ _ h => h
  rintro fault ⟨hLacks, rfl⟩
  exact ⟨rfl, hLacks rfl⟩

/- With enough numbers left, a computation does end. -/
theorem Costs.exists_ok
    {build : Building A}
    {top : Nat}
    {goal : A → Arena → Prop}
    (hBuild : Costs build arena amount)
    (hEnsures : Ensures build arena top goal)
    (hRoom : arena.size + amount ≤ nodeLimit) :
    ∃ value after,
      build arena = .ok (value, after) ∧ after.Sound ∧
        Grows top arena after ∧ goal value after ∧
          after.size ≤ arena.size + amount := by
  rcases (hBuild.ensured hEnsures).exists_ok
      (not_lacks hRoom) with
    ⟨⟨value, after⟩, hRun, hSize, hSound, hGrows, hGoal⟩
  exact ⟨value, after, hRun, hSound, hGrows, hGoal, hSize⟩

end Building

end LatticeGas

------------------------------------------------------------
-- Leaves, Nodes and Walls
------------------------------------------------------------

namespace LatticeGas

namespace Arena

variable {arena : Arena}

/- Asking for a level does not use up a number. -/
theorem not_exhaustion_level
    (arena : Arena)
    (id : NodeId) :
    Barring (fun fault => ¬ fault.Exhaustion)
      (fun _ => True) (arena.level id) := by
  unfold level entry
  cases arena.entries[id]? with
  | none => exact Fault.noConfusion
  | some entry => trivial

theorem not_exhaustion_require
    {condition : Prop}
    [Decidable condition]
    {fault : Fault}
    (hFault : ¬ fault.Exhaustion) :
    Barring (fun fault => ¬ fault.Exhaustion)
      (fun _ => True) (require condition fault) := by
  unfold require
  split
  · trivial
  · exact hFault

theorem not_exhaustion_parentLevel
    (arena : Arena)
    (ids : Quad NodeId) :
    Barring (fun fault => ¬ fault.Exhaustion)
      (fun _ => True) (arena.parentLevel ids) := by
  have hLevel := arena.not_exhaustion_level
  have hMixed : ¬ Fault.mixedLevels.Exhaustion :=
    Fault.noConfusion
  have hDeep : ¬ Fault.tooDeep.Exhaustion :=
    Fault.noConfusion
  unfold parentLevel
  refine (hLevel ids.sw).bind fun level _ _ => ?_
  refine (hLevel ids.se).bind fun _ _ _ => ?_
  refine (not_exhaustion_require hMixed).bind fun _ _ _ => ?_
  refine (hLevel ids.nw).bind fun _ _ _ => ?_
  refine (not_exhaustion_require hMixed).bind fun _ _ _ => ?_
  refine (hLevel ids.ne).bind fun _ _ _ => ?_
  refine (not_exhaustion_require hMixed).bind fun _ _ _ => ?_
  exact (not_exhaustion_require hDeep).bind
    fun _ _ _ => trivial

end Arena

namespace Building

open Arena

variable {arena : Arena}
variable {id : NodeId}
variable {level amount : Nat}

/-
  Every node counts for no more than one in the weight, and
  each node that is there counts.
-/
def Counts (weight : Arena → Nat) : Prop :=
  ∀ (arena : Arena) (entry : Entry),
    arena.size ≤ weight arena ∧
      weight (arena.extended entry) ≤ weight arena + 1

theorem counts_size : Counts Arena.size :=
  fun arena entry =>
    ⟨Nat.le_refl _, Nat.le_of_eq (size_extended arena entry)⟩

variable {weight : Arena → Nat}

/- At most the node that is asked for is added. -/
theorem weighs_push
    (hCounts : Counts weight)
    {build : Building NodeId}
    {entry : Entry}
    (hRun : build arena = arena.push entry) :
    Weighs weight build arena 1 := by
  rcases hCounts arena entry with ⟨hSize, hMore⟩
  have hPushed := pushed_push arena entry
  unfold Weighs
  rw [hRun]
  generalize arena.push entry = outcome at hPushed ⊢
  cases hPushed with
  | found => exact Nat.le_succ (weight arena)
  | added => exact hMore
  | full _ hFull =>
      intro _
      omega

theorem weighs_leaf
    (hCounts : Counts weight)
    (cell : Cell)
    (arena : Arena) :
    Weighs weight (leaf cell) arena 1 :=
  weighs_push hCounts rfl

theorem weighs_node
    (hCounts : Counts weight)
    (ids : Quad NodeId)
    (arena : Arena) :
    Weighs weight (node ids) arena 1 := by
  have hParent := arena.not_exhaustion_parentLevel ids
  cases hAbove : arena.parentLevel ids with
  | error fault =>
      have hRun : node ids arena = .error fault := by
        unfold node
        rw [hAbove]
        rfl
      unfold Weighs
      rw [hRun]
      rw [hAbove] at hParent
      exact fun hExhausted => absurd hExhausted hParent
  | ok above =>
      have hRun :
          node ids arena = arena.push (.node above ids) := by
        unfold node
        rw [hAbove]
        rfl
      exact weighs_push hCounts hRun

theorem costs_leaf
    (cell : Cell)
    (arena : Arena) :
    Costs (leaf cell) arena 1 :=
  weighs_leaf counts_size cell arena

theorem costs_node
    (ids : Quad NodeId)
    (arena : Arena) :
    Costs (node ids) arena 1 :=
  weighs_node counts_size ids arena

/- A remembered wall costs nothing. -/
theorem costs_wallOr
    {build : Building NodeId}
    (hBuild :
      arena.walls.size ≤ level →
        Costs build arena amount) :
    Costs (wallOr level build) arena amount := by
  unfold Costs Weighs wallOr
  cases hFound : arena.walls[level]? with
  | some id => exact Nat.le_add_right arena.size amount
  | none =>
      have hSize := Array.getElem?_eq_none_iff.mp hFound
      have hKeep :
          ∀ (id : NodeId) (after : Arena),
            Costs (keepWall id) after 0 :=
        fun _ after => Nat.le_refl after.size
      exact (hBuild hSize).bind fun id after _ =>
        hKeep id after

/- Others cost one node for each level that is missing. -/
theorem costs_wallUpTo
    (level : Nat)
    (arena : Arena) :
    Costs (wallUpTo level) arena
      (level + 1 - arena.walls.size) := by
  induction level with
  | zero =>
      apply costs_wallOr
      intro hSize
      have hNone : arena.walls.size = 0 := by omega
      rw [hNone]
      exact costs_leaf .wall arena
  | succ level ih =>
      apply costs_wallOr
      intro hSize
      have hMore :
          level + 1 + 1 - arena.walls.size =
            level + 1 - arena.walls.size + 1 := by
        omega
      rw [hMore]
      exact ih.bind fun quadrant after _ =>
        costs_node (Quad.all quadrant) after

theorem costs_wall
    (level : Nat)
    (arena : Arena) :
    Costs (wall level) arena
      (level + 1 - arena.walls.size) :=
  (costs_wallUpTo _ arena).mono (by omega)

/- The macro step costs as many nodes as its trail is long. -/
theorem costs_advanceCenter
    (hSound : arena.Sound)
    {square : Square (level + 2)}
    (hSquare : arena.Denotes id square) :
    Costs (advanceCenter id) arena
      (Square.stepCost level) := by
  have hSome : arena.SoundFor False :=
    ⟨hSound, False.elim, False.elim⟩
  rw [← square.length_trail]
  refine Barring.imp
    ((appending False).advanceCenter hSome hSquare)
    (fun _ hFault _ => hFault.2) ?_
  rintro ⟨next, after⟩ - ⟨-, hAppends, -⟩
  exact hAppends.size_le

end Building

end LatticeGas

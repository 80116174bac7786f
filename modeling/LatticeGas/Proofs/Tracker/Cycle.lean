import LatticeGas.Region

/-
  This file follows the frame of a tracker, which is the
  level of its square and the place of its region there,
  through growth and macro steps. From the first macro step
  on, the frames come back after every third one.

  Key definitions include:
    * `Frame`
    * `Frame.GrowsTo`
    * `Frame.settled`
    * `Frame.padded`
    * `Frame.ticks`
    * `Frame.elapsed`

  Key theorems include:
    * `Frame.growsTo_padded`
    * `Frame.leap_padded`
    * `Frame.elapsed_succ`
-/

------------------------------------------------------------
-- Frames
------------------------------------------------------------

namespace LatticeGas

/-
  The level of a square, and how far along both axes a region
  starts in it.
-/
structure Frame where
  level : Nat
  origin : Nat
  deriving DecidableEq

namespace Frame

/- The region of a frame, with the given side. -/
def region
    (frame : Frame)
    (side : Nat) : Region :=
  ⟨frame.origin, frame.origin, side, side⟩

/- The region of the given side lies in the square. -/
def Fits
    (frame : Frame)
    (side : Nat) : Prop :=
  frame.origin + side ≤ sideOfLevel frame.level

/- One macro step covers the region of the given side. -/
def Central
    (frame : Frame)
    (side : Nat) : Prop :=
  (frame.region side).Central frame.level

instance
    (frame : Frame)
    (side : Nat) :
    Decidable (frame.Central side) := by
  unfold Central
  infer_instance

/- The frame after the square was wrapped in walls. -/
def wrap (frame : Frame) : Frame :=
  { level := frame.level + 1
    origin :=
      if frame.level % 2 = 0 then
        frame.origin
      else
        frame.origin + sideOfLevel frame.level }

/- The walls that a wrap puts below a square of the level. -/
def margin (level : Nat) : Nat :=
  if level % 2 = 0 then 0 else sideOfLevel level

/- The frame after a macro step of the square. -/
def leap (frame : Frame) : Frame :=
  { level := frame.level - 1
    origin := frame.origin - Region.quarter frame.level }

variable {side : Nat}
variable {frame grown : Frame}

theorem fits_region_iff
    (frame : Frame)
    (side : Nat) :
    (frame.region side).Fits frame.level ↔
      frame.Fits side := by
  unfold Region.Fits Fits region
  constructor
  · intro hFits
    exact hFits.1
  · intro hFits
    exact ⟨hFits, hFits⟩

/- What it means to be central, from level two on. -/
theorem central_iff
    (level origin side : Nat) :
    Central ⟨level + 2, origin⟩ side ↔
      sideOfLevel level ≤ origin ∧
        origin + side ≤ 3 * sideOfLevel level := by
  have hQuarter :
      Region.quarter (level + 2) = sideOfLevel level :=
    rfl
  unfold Central Region.Central region
  simp only [hQuarter]
  omega

/- The level and the place of a central region. -/
theorem Central.exists_level
    (hCentral : frame.Central side) :
    ∃ below,
      frame.level = below + 2 ∧
        sideOfLevel below ≤ frame.origin ∧
        frame.origin + side ≤ 3 * sideOfLevel below := by
  rcases frame with ⟨level, origin⟩
  have hLevel : level = level - 2 + 2 := by
    have hTwo : 2 ≤ level := hCentral.1
    omega
  refine ⟨level - 2, hLevel, ?_⟩
  rw [hLevel, central_iff] at hCentral
  exact hCentral

theorem origin_wrap
    (frame : Frame) :
    frame.wrap.origin = frame.origin + margin frame.level := by
  unfold wrap margin
  by_cases hEven : frame.level % 2 = 0
  · simp only [if_pos hEven, Nat.add_zero]
  · simp only [if_neg hEven]

/- The region stays in the square when that is wrapped. -/
theorem Fits.wrap
    (hFits : frame.Fits side) :
    frame.wrap.Fits side := by
  have hSide := sideOfLevel_succ frame.level
  unfold Fits at hFits
  unfold Fits Frame.wrap
  by_cases hEven : frame.level % 2 = 0
  · simp only [if_pos hEven]
    omega
  · simp only [if_neg hEven]
    omega

/- The region stays in the middle that a macro step yields. -/
theorem Central.fits_leap
    (hCentral : frame.Central side) :
    frame.leap.Fits side := by
  rcases hCentral.exists_level with
    ⟨below, hLevel, hLow, hHigh⟩
  have hQuarter :
      Region.quarter (below + 2) = sideOfLevel below :=
    rfl
  have hSide := sideOfLevel_succ below
  unfold Fits leap
  simp only [hLevel, hQuarter, Nat.add_succ_sub_one]
  omega

end Frame

end LatticeGas

------------------------------------------------------------
-- Growth
------------------------------------------------------------

namespace LatticeGas

namespace Frame

/-
  Wrapping the square as long as the region is not central
  leads from the first frame to the second one.
-/
inductive GrowsTo (side : Nat) : Frame → Frame → Prop where
  | done
      {frame : Frame}
      (hCentral : frame.Central side) :
      GrowsTo side frame frame
  | wrap
      {frame grown : Frame}
      (hOff : ¬ frame.Central side)
      (hRest : GrowsTo side frame.wrap grown) :
      GrowsTo side frame grown

variable {side : Nat}
variable {frame grown : Frame}

theorem GrowsTo.central
    (hGrows : GrowsTo side frame grown) :
    grown.Central side := by
  induction hGrows with
  | done hCentral => exact hCentral
  | wrap hOff hRest ih => exact ih

theorem GrowsTo.level_le
    (hGrows : GrowsTo side frame grown) :
    frame.level ≤ grown.level := by
  induction hGrows with
  | done hCentral => exact Nat.le_refl _
  | wrap hOff hRest ih => exact Nat.le_of_succ_le ih

/- At the lower edge of a square no region is central. -/
theorem not_central_of_origin_zero
    (level side : Nat) :
    ¬ Central ⟨level, 0⟩ side := by
  intro hCentral
  rcases hCentral.exists_level with ⟨below, -, hLow, -⟩
  have hPos := sideOfLevel_pos below
  simp only at hLow
  omega

/- A region that reaches too far up is not central. -/
theorem not_central_of_lt
    {level origin : Nat}
    (hHigh :
      3 * sideOfLevel level < 2 * (origin + side)) :
    ¬ Central ⟨level + 1, origin⟩ side := by
  intro hCentral
  rcases hCentral.exists_level with
    ⟨below, hLevel, -, hBelow⟩
  have hSame : level = below + 1 := by
    simp only at hLevel
    omega
  subst hSame
  simp only at hBelow
  rw [sideOfLevel_succ] at hHigh
  omega

end Frame

end LatticeGas

------------------------------------------------------------
-- The Cycle
------------------------------------------------------------

namespace LatticeGas

namespace Frame

/-
  The frame after the given number of macro steps, for a
  square that was seeded at the given level. Even and odd
  seed levels put the region into opposite corners.
-/
def settled (level calls : Nat) : Frame :=
  if calls = 0 then
    ⟨level, 0⟩
  else if calls % 3 = 0 then
    ⟨level + 1,
      if level % 2 = 0 then 0 else sideOfLevel level⟩
  else if calls % 3 = 1 then
    ⟨level + 1,
      if level % 2 = 0 then sideOfLevel level else 0⟩
  else
    ⟨level + 2,
      if level % 2 = 0 then sideOfLevel level
      else sideOfLevel (level + 1)⟩

/- The frame in which the next macro step is taken. -/
def padded (level calls : Nat) : Frame :=
  if calls % 3 = 0 then
    ⟨level + 2,
      if level % 2 = 0 then sideOfLevel (level + 1)
      else sideOfLevel level⟩
  else if calls % 3 = 1 then
    ⟨level + 3,
      if level % 2 = 0 then 3 * sideOfLevel level
      else sideOfLevel (level + 2)⟩
  else
    ⟨level + 2,
      if level % 2 = 0 then sideOfLevel level
      else sideOfLevel (level + 1)⟩

/- The ticks of a macro step, counted from one. -/
def ticks (level call : Nat) : Nat :=
  if call % 3 = 2 then
    sideOfLevel (level + 1)
  else
    sideOfLevel level

/- The ticks of the given number of macro steps. -/
def elapsed (level calls : Nat) : Nat :=
  sideOfLevel level * (calls + (calls + 1) / 3)

/- The macro steps are counted in threes. -/
theorem mod_three_cases
    (calls : Nat) :
    calls % 3 = 0 ∨ calls % 3 = 1 ∨ calls % 3 = 2 := by
  omega

theorem level_padded_le
    (level calls : Nat) :
    (padded level calls).level ≤ level + 3 := by
  unfold padded
  rcases mod_three_cases calls with hMod | hMod | hMod
  · simp [hMod]
  · simp [hMod]
  · simp [hMod]

/- There are two wraps at most before a macro step. -/
theorem level_padded_le_settled
    (level calls : Nat) :
    (padded level calls).level ≤
      (settled level calls).level + 2 := by
  unfold padded settled
  rcases mod_three_cases calls with hMod | hMod | hMod
  · by_cases hStart : calls = 0
    · simp [hStart]
    · simp [hMod, hStart]
  · have hStart : calls ≠ 0 := by omega
    simp [hMod, hStart]
  · have hStart : calls ≠ 0 := by omega
    simp [hMod, hStart]

/- Every macro step adds its ticks to those before it. -/
theorem elapsed_succ
    (level calls : Nat) :
    elapsed level (calls + 1) =
      elapsed level calls + ticks level (calls + 1) := by
  unfold elapsed ticks
  by_cases hLong : (calls + 1) % 3 = 2
  · have hCount :
        calls + 1 + (calls + 1 + 1) / 3 =
          calls + (calls + 1) / 3 + 2 := by
      omega
    rw [if_pos hLong, sideOfLevel_succ, hCount, Nat.mul_add]
    omega
  · have hCount :
        calls + 1 + (calls + 1 + 1) / 3 =
          calls + (calls + 1) / 3 + 1 := by
      omega
    rw [if_neg hLong, hCount, Nat.mul_add, Nat.mul_one]

end Frame

end LatticeGas

------------------------------------------------------------
-- Growth in the Cycle
------------------------------------------------------------

namespace LatticeGas

namespace Frame

variable {level origin side : Nat}

theorem wrap_of_even
    (hEven : level % 2 = 0) :
    wrap ⟨level, origin⟩ = ⟨level + 1, origin⟩ := by
  simp only [wrap, if_pos hEven]

theorem wrap_of_odd
    (hOdd : level % 2 = 1) :
    wrap ⟨level, origin⟩ =
      ⟨level + 1, origin + sideOfLevel level⟩ := by
  have hNotEven : ¬ level % 2 = 0 := by omega
  simp only [wrap, if_neg hNotEven]

variable (hFits : side ≤ sideOfLevel level)

include hFits

/- Nothing is wrapped after the second of three. -/
theorem central_of_second :
    Central
      ⟨level + 2,
        if level % 2 = 0 then sideOfLevel level
        else sideOfLevel (level + 1)⟩
      side := by
  have hDouble := sideOfLevel_succ level
  rw [central_iff]
  by_cases hEven : level % 2 = 0
  · rw [if_pos hEven]
    omega
  · rw [if_neg hEven]
    omega

variable (hTight : sideOfLevel level < 2 * side)

include hTight

/- One wrapping follows on the last of three macro steps. -/
theorem growsTo_of_third :
    GrowsTo side
      ⟨level + 1,
        if level % 2 = 0 then 0 else sideOfLevel level⟩
      ⟨level + 2,
        if level % 2 = 0 then sideOfLevel (level + 1)
        else sideOfLevel level⟩ := by
  have hDouble := sideOfLevel_succ level
  by_cases hEven : level % 2 = 0
  · rw [if_pos hEven, if_pos hEven]
    apply GrowsTo.wrap (not_central_of_origin_zero _ side)
    rw [wrap_of_odd (by omega), Nat.zero_add]
    apply GrowsTo.done
    rw [central_iff]
    omega
  · rw [if_neg hEven, if_neg hEven]
    apply GrowsTo.wrap (not_central_of_lt (by omega))
    rw [wrap_of_even (by omega)]
    apply GrowsTo.done
    rw [central_iff]
    omega

/- A new square is wrapped once more than that. -/
theorem growsTo_of_seed :
    GrowsTo side
      ⟨level, 0⟩
      ⟨level + 2,
        if level % 2 = 0 then sideOfLevel (level + 1)
        else sideOfLevel level⟩ := by
  have hRest := growsTo_of_third hFits hTight
  apply GrowsTo.wrap (not_central_of_origin_zero _ side)
  by_cases hEven : level % 2 = 0
  · rw [wrap_of_even hEven]
    rw [if_pos hEven] at hRest
    exact hRest
  · rw [wrap_of_odd (by omega), Nat.zero_add]
    rw [if_neg hEven] at hRest
    exact hRest

/- Two wrappings follow on the first of three macro steps. -/
theorem growsTo_of_first :
    GrowsTo side
      ⟨level + 1,
        if level % 2 = 0 then sideOfLevel level else 0⟩
      ⟨level + 3,
        if level % 2 = 0 then 3 * sideOfLevel level
        else sideOfLevel (level + 2)⟩ := by
  have hDouble := sideOfLevel_succ level
  have hFourfold := sideOfLevel_succ (level + 1)
  by_cases hEven : level % 2 = 0
  · rw [if_pos hEven, if_pos hEven]
    apply GrowsTo.wrap (not_central_of_lt (by omega))
    have hThree :
        sideOfLevel level + sideOfLevel (level + 1) =
          3 * sideOfLevel level := by
      omega
    rw [wrap_of_odd (by omega), hThree]
    apply GrowsTo.wrap (not_central_of_lt (by omega))
    rw [wrap_of_even (by omega)]
    apply GrowsTo.done
    rw [central_iff]
    omega
  · rw [if_neg hEven, if_neg hEven]
    apply GrowsTo.wrap (not_central_of_origin_zero _ side)
    rw [wrap_of_even (by omega)]
    apply GrowsTo.wrap (not_central_of_origin_zero _ side)
    rw [wrap_of_odd (by omega), Nat.zero_add]
    apply GrowsTo.done
    rw [central_iff]
    omega

/-
  Growth after any number of macro steps leads to the frame
  in which the next one is taken.
-/
theorem growsTo_padded
    (calls : Nat) :
    GrowsTo side (settled level calls)
      (padded level calls) := by
  unfold settled padded
  rcases mod_three_cases calls with hMod | hMod | hMod
  · by_cases hStart : calls = 0
    · simp only [hMod, if_pos hStart, if_true]
      exact growsTo_of_seed hFits hTight
    · simp only [hMod, if_neg hStart, if_true]
      exact growsTo_of_third hFits hTight
  · have hStart : calls ≠ 0 := by omega
    simp only [hMod, if_neg hStart, if_true,
      Nat.one_ne_zero, if_false]
    exact growsTo_of_first hFits hTight
  · have hStart : calls ≠ 0 := by omega
    have hNotThird : ¬ calls % 3 = 0 := by omega
    have hNotFirst : ¬ calls % 3 = 1 := by omega
    simp only [if_neg hStart, if_neg hNotThird,
      if_neg hNotFirst]
    exact GrowsTo.done (central_of_second hFits)

end Frame

end LatticeGas

------------------------------------------------------------
-- Macro Steps in the Cycle
------------------------------------------------------------

namespace LatticeGas

namespace Frame

/- The next macro step covers the ticks that are due. -/
theorem quarter_padded
    (level calls : Nat) :
    Region.quarter (padded level calls).level =
      ticks level (calls + 1) := by
  unfold padded ticks Region.quarter
  rcases mod_three_cases calls with hMod | hMod | hMod
  · have hNext : (calls + 1) % 3 ≠ 2 := by omega
    simp [hMod, hNext]
  · have hNext : (calls + 1) % 3 = 2 := by omega
    simp [hMod, hNext]
  · have hNext : (calls + 1) % 3 ≠ 2 := by omega
    simp [hMod, hNext]

/- The level of what is left of the square by the step. -/
theorem level_padded_sub
    (level calls : Nat) :
    (padded level calls).level - 2 =
      if (calls + 1) % 3 = 2 then level + 1 else level := by
  unfold padded
  rcases mod_three_cases calls with hMod | hMod | hMod
  · have hNext : (calls + 1) % 3 ≠ 2 := by omega
    simp [hMod, hNext]
  · have hNext : (calls + 1) % 3 = 2 := by omega
    simp [hMod, hNext]
  · have hNext : (calls + 1) % 3 ≠ 2 := by omega
    simp [hMod, hNext]

/- The macro step leads to the frame that comes next. -/
theorem leap_padded
    (level calls : Nat) :
    (padded level calls).leap =
      settled level (calls + 1) := by
  have hDouble := sideOfLevel_succ level
  have hFourfold :
      sideOfLevel (level + 2) =
        sideOfLevel (level + 1) + sideOfLevel (level + 1) :=
    sideOfLevel_succ (level + 1)
  unfold leap
  rw [quarter_padded]
  unfold padded settled ticks
  rcases mod_three_cases calls with hMod | hMod | hMod
  · have hNext : (calls + 1) % 3 = 1 := by omega
    by_cases hEven : level % 2 = 0
    · simp [hMod, hNext, hEven]
      omega
    · simp [hMod, hNext, hEven]
  · have hNext : (calls + 1) % 3 = 2 := by omega
    by_cases hEven : level % 2 = 0
    · simp [hMod, hNext, hEven]
      omega
    · simp [hMod, hNext, hEven]
      omega
  · have hNext : (calls + 1) % 3 = 0 := by omega
    by_cases hEven : level % 2 = 0
    · simp [hMod, hNext, hEven]
    · simp [hMod, hNext, hEven]
      omega

end Frame

end LatticeGas

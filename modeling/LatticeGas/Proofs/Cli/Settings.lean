import Mathlib.Data.List.Induction
import LatticeGas.Proofs.Cli.Words

/-
  This file shows what several settings of the program do, one
  after another. Settings of one option replace each other,
  and those of different options do not meet. So only the last
  setting of each option counts.

  Key definitions include:
    * `Cli.OptionName`
    * `Cli.Setting.name`
    * `Cli.Setting.last?`
    * `Cli.Options.setAll`

  Key theorems include:
    * `Cli.Options.set_set`
    * `Cli.Options.set_comm`
    * `Cli.Options.setAll_set`
    * `Cli.Options.setAll_eq_of_last?_eq`
-/

------------------------------------------------------------
-- What Settings Change
------------------------------------------------------------

namespace LatticeGas

namespace Cli

/- The options of a command line: flags and switches. -/
abbrev OptionName :=
  Flag ⊕ Switch

/- The option that a setting is about. -/
def Setting.name : Setting → OptionName
| .size _ => .inl .size
| .temperature _ => .inl .temperature
| .advances _ => .inl .advances
| .seed _ => .inl .seed
| .threads _ => .inl .threads
| .switch which => .inr which

namespace Options

/- Settings of one option replace each other. -/
theorem set_set
    {first second : Setting}
    (hName : first.name = second.name)
    (options : Options) :
    (options.set first).set second = options.set second := by
  cases second with
  | switch switch =>
      cases first with
      | switch other =>
          cases hName
          cases switch with
          | noMemoize => rfl
          | noIntern => rfl
          | check => rfl
      | _ => nomatch hName
  | size side =>
      cases first with
      | size other => rfl
      | _ => nomatch hName
  | temperature value =>
      cases first with
      | temperature other => rfl
      | _ => nomatch hName
  | advances count =>
      cases first with
      | advances other => rfl
      | _ => nomatch hName
  | seed seed =>
      cases first with
      | seed other => rfl
      | _ => nomatch hName
  | threads count =>
      cases first with
      | threads other => rfl
      | _ => nomatch hName

/- Settings of two options do not meet. -/
theorem set_comm
    {first second : Setting}
    (hName : first.name ≠ second.name)
    (options : Options) :
    (options.set first).set second =
      (options.set second).set first := by
  cases second with
  | switch switch => exact options.set_switch switch first
  | size side =>
      cases first with
      | size other => exact absurd rfl hName
      | switch switch =>
          exact (options.set_switch switch _).symm
      | _ => rfl
  | temperature value =>
      cases first with
      | temperature other => exact absurd rfl hName
      | switch switch =>
          exact (options.set_switch switch _).symm
      | _ => rfl
  | advances count =>
      cases first with
      | advances other => exact absurd rfl hName
      | switch switch =>
          exact (options.set_switch switch _).symm
      | _ => rfl
  | seed seed =>
      cases first with
      | seed other => exact absurd rfl hName
      | switch switch =>
          exact (options.set_switch switch _).symm
      | _ => rfl
  | threads count =>
      cases first with
      | threads other => exact absurd rfl hName
      | switch switch =>
          exact (options.set_switch switch _).symm
      | _ => rfl

end Options

end Cli

end LatticeGas

------------------------------------------------------------
-- The Last Setting Counts
------------------------------------------------------------

namespace LatticeGas

namespace Cli

/- The settings of other options. -/
def Setting.others
    (name : OptionName)
    (settings : List Setting) : List Setting :=
  settings.filter fun setting => setting.name ≠ name

/- The last setting of an option, if there is one. -/
def Setting.last?
    (name : OptionName)
    (settings : List Setting) : Option Setting :=
  (settings.filter fun setting =>
    setting.name = name).getLast?

namespace Setting

variable {name other : OptionName}
variable {settings : List Setting}
variable {setting : Setting}

theorem others_concat_of_ne
    (hName : setting.name ≠ name)
    (settings : List Setting) :
    others name (settings ++ [setting]) =
      others name settings ++ [setting] := by
  simp [others, hName]

theorem others_concat_of_eq
    (hName : setting.name = name)
    (settings : List Setting) :
    others name (settings ++ [setting]) =
      others name settings := by
  simp [others, hName]

theorem last?_concat_of_ne
    (hName : setting.name ≠ name)
    (settings : List Setting) :
    last? name (settings ++ [setting]) =
      last? name settings := by
  simp [last?, hName]

theorem last?_concat_of_eq
    (hName : setting.name = name)
    (settings : List Setting) :
    last? name (settings ++ [setting]) = some setting := by
  simp [last?, hName]

/- Settings of other options have a last one as before. -/
theorem last?_others_of_ne
    (hName : other ≠ name)
    (settings : List Setting) :
    last? other (others name settings) =
      last? other settings := by
  unfold last? others
  rw [List.filter_filter]
  congr 2
  funext setting
  by_cases hOther : setting.name = other
  · simp [hOther, hName]
  · simp [hOther]

theorem last?_others_self
    (name : OptionName)
    (settings : List Setting) :
    last? name (others name settings) = none := by
  unfold last? others
  rw [List.filter_filter, List.getLast?_eq_none_iff,
    List.filter_eq_nil_iff]
  intro setting _
  simp

theorem mem_of_last?_eq_some
    (hLast : last? name settings = some setting) :
    setting ∈ settings ∧ setting.name = name := by
  have hMem := List.mem_of_getLast? hLast
  rw [List.mem_filter] at hMem
  exact ⟨hMem.1, of_decide_eq_true hMem.2⟩

/- A list without any last setting has no settings. -/
theorem eq_nil_of_last?_eq_none
    (hNone : ∀ name, last? name settings = none) :
    settings = [] := by
  cases settings with
  | nil => rfl
  | cons setting settings =>
      have hEmpty := hNone setting.name
      rw [last?, List.getLast?_eq_none_iff,
        List.filter_eq_nil_iff] at hEmpty
      exact absurd (decide_eq_true rfl)
        (hEmpty setting (by simp))

theorem length_others_lt
    (hMem : setting ∈ settings)
    (hName : setting.name = name) :
    (others name settings).length < settings.length := by
  apply List.length_filter_lt_length_iff_exists.mpr
  exact ⟨setting, hMem, by simp [hName]⟩

end Setting

namespace Options

open Setting

variable {name : OptionName}
variable {settings left right : List Setting}
variable {setting : Setting}

/- Change the options by several settings, in order. -/
def setAll
    (options : Options)
    (settings : List Setting) : Options :=
  settings.foldl set options

theorem setAll_concat
    (options : Options)
    (settings : List Setting)
    (setting : Setting) :
    options.setAll (settings ++ [setting]) =
      (options.setAll settings).set setting := by
  simp only [setAll, List.foldl_append, List.foldl_cons,
    List.foldl_nil]

/-
  A setting may come first, if the settings that it replaces
  are left out.
-/
theorem setAll_set
    (options : Options)
    (settings : List Setting)
    (setting : Setting) :
    (options.setAll settings).set setting =
      (options.set setting).setAll
        (others setting.name settings) := by
  induction settings generalizing options with
  | nil => rfl
  | cons early settings ih =>
      change
        ((options.set early).setAll settings).set setting = _
      rw [ih]
      by_cases hName : early.name = setting.name
      · rw [set_set hName, others, others,
          List.filter_cons_of_neg (by simp [hName])]
      · rw [set_comm hName, others, others,
          List.filter_cons_of_pos (by simp [hName])]
        rfl

/- So the last setting of an option may come first. -/
theorem setAll_of_last?_eq_some
    (hLast : last? name settings = some setting)
    (options : Options) :
    options.setAll settings =
      (options.set setting).setAll (others name settings) := by
  induction settings using List.reverseRecOn with
  | nil => cases hLast
  | append_singleton settings latest ih =>
      rw [setAll_concat]
      by_cases hName : latest.name = name
      · rw [last?_concat_of_eq hName] at hLast
        cases hLast
        rw [others_concat_of_eq hName, setAll_set, hName]
      · rw [last?_concat_of_ne hName] at hLast
        rw [others_concat_of_ne hName, setAll_concat,
          ih hLast]

/-
  Only the last setting of each option counts. The induction
  is on the number of settings: those of one option are taken
  out, and its last one is put first.
-/
theorem setAll_eq_of_last?_eq
    (hLast : ∀ name, last? name left = last? name right)
    (options : Options) :
    options.setAll left = options.setAll right := by
  induction hLength : left.length using Nat.strongRecOn
    generalizing left right options with
  | ind length ih =>
      cases left with
      | nil =>
          have hNone : right = [] :=
            eq_nil_of_last?_eq_none fun name =>
              (hLast name).symm
          rw [hNone]
      | cons early rest =>
          let name := early.name
          obtain ⟨setting, hLeft⟩ :
              ∃ setting,
                last? name (early :: rest) = some setting := by
            apply Option.ne_none_iff_exists'.mp
            rw [last?, ne_eq, List.getLast?_eq_none_iff,
              List.filter_cons_of_pos (by simp [name])]
            exact List.cons_ne_nil _ _
          have hRight : last? name right = some setting :=
            (hLast name).symm.trans hLeft
          rw [setAll_of_last?_eq_some hLeft,
            setAll_of_last?_eq_some hRight]
          have hFewer := length_others_lt
            (mem_of_last?_eq_some hLeft).1
            (mem_of_last?_eq_some hLeft).2
          apply ih _ (hLength ▸ hFewer) ?_ _ rfl
          intro other
          by_cases hOther : other = name
          · rw [hOther, last?_others_self, last?_others_self]
          · rw [last?_others_of_ne hOther,
              last?_others_of_ne hOther, hLast]

end Options

end Cli

end LatticeGas

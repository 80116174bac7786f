import LatticeGas.Proofs.Cli.Checking
import LatticeGas.Proofs.Tracker.Remembering

/-
  This file shows which of the lines of a run depend on how
  the gas is computed. The number of workers is told by none
  of them. What is remembered and shared is told by the lines
  about the nodes, and if nodes are shared, what is remembered
  is told by a single number.

  Key definitions include:
    * `Cli.Options.OtherGrid`
    * `Cli.Trace.Exhausted`

  Key theorems include:
    * `Cli.Options.parse_insert_threads`
    * `Cli.Options.plan_of_otherGrid`
    * `Tracker.Twins.concur_course`
    * `Cli.Options.concur_plan`
    * `Cli.Options.trace_of_config`
    * `Cli.trace_of_tuning`
-/

------------------------------------------------------------
-- Options That Tune a Run
------------------------------------------------------------

namespace LatticeGas

namespace Cli

namespace Options

/- The right options are the left ones but for the workers. -/
def OtherGrid (left right : Options) : Prop :=
  ∃ config : Grid.Config, right = { left with grid := config }

theorem OtherGrid.set
    {left right : Options}
    (hOther : left.OtherGrid right)
    (setting : Setting) :
    (left.set setting).OtherGrid (right.set setting) := by
  rcases hOther with ⟨config, rfl⟩
  cases setting with
  | switch switch => cases switch <;> exact ⟨config, rfl⟩
  | size side => exact ⟨config, rfl⟩
  | temperature value => exact ⟨config, rfl⟩
  | advances count => exact ⟨config, rfl⟩
  | seed seed => exact ⟨config, rfl⟩
  | threads count => exact ⟨config.withThreads count, rfl⟩

variable {parsed : Options}
variable {words : List String}

/- A number of workers changes nothing but the workers. -/
theorem parse_insert_threads
    {before after : List String}
    {early : Options}
    {value : String}
    {setting : Setting}
    (hBefore : parse before = .ok early)
    (hParse : parse (before ++ after) = .ok parsed)
    (hRead : Flag.threads.read value = .ok setting) :
    ∃ options,
      parse (before ++ Flag.threads.word :: value :: after) =
          .ok options ∧
        parsed.OtherGrid options := by
  have hSwitch : Switch.ofWord? Flag.threads.word = none := by
    decide
  have hFlag :
      Flag.ofWord? Flag.threads.word = some .threads := by
    decide
  have hBetween :
      early.parseFrom [Flag.threads.word, value] =
        .ok (early.set setting) :=
    parseFrom_flag hSwitch hFlag hRead
  obtain ⟨count, rfl⟩ :
      ∃ count, setting = .threads count := by
    simp only [Flag.read, Except.map] at hRead
    split at hRead
    · cases hRead
    · cases hRead
      exact ⟨_, rfl⟩
  have hTuned : early.OtherGrid (early.set (.threads count)) :=
    ⟨early.grid.withThreads count, rfl⟩
  exact parse_insert (fun _ _ setting hOther =>
    hOther.set setting) hBefore hParse hBetween hTuned

/- No setting limits the number of nodes. -/
theorem compactThreshold_set
    (options : Options)
    (setting : Setting) :
    (options.set setting).tracker.compactThreshold =
      options.tracker.compactThreshold := by
  cases setting with
  | switch switch => cases switch <;> rfl
  | size side => rfl
  | temperature value => rfl
  | advances count => rfl
  | seed seed => rfl
  | threads count => rfl

theorem compactThreshold_of_parse
    (hParse : parse words = .ok parsed) :
    parsed.tracker.compactThreshold = none := by
  let holds : Options → Prop :=
    fun options => options.tracker.compactThreshold = none
  have hSet :
      ∀ options setting, holds options →
        holds (options.set setting) :=
    fun options setting hNone =>
      (options.compactThreshold_set setting).trans hNone
  exact parseFrom_preserves hSet rfl hParse

/- Only one switch has to do with nodes being shared. -/
theorem intern_set
    {setting : Setting}
    (hSetting : setting ≠ .switch .noIntern)
    (options : Options) :
    (options.set setting).tracker.intern =
      options.tracker.intern := by
  cases setting with
  | switch switch =>
      cases switch with
      | noIntern => exact absurd rfl hSetting
      | noMemoize => rfl
      | check => rfl
  | size side => rfl
  | temperature value => rfl
  | advances count => rfl
  | seed seed => rfl
  | threads count => rfl

/- Without its word nodes are shared as they were before. -/
theorem intern_of_not_mem
    {options : Options}
    (hWords : Switch.noIntern.word ∉ words)
    (hParse : options.parseFrom words = .ok parsed) :
    parsed.tracker.intern = options.tracker.intern := by
  fun_induction parseFrom options words with
  | case1 options =>
      cases hParse
      rfl
  | case2 options word words switch hSwitch ih =>
      have hWord := Switch.word_eq_of_ofWord? hSwitch
      subst hWord
      rw [List.mem_cons, not_or] at hWords
      have hSetting :
          Setting.switch switch ≠ .switch .noIntern := by
        rintro hSame
        cases hSame
        exact hWords.1 rfl
      exact (ih hWords.2 hParse).trans
        (intern_set hSetting options)
  | case3 => cases hParse
  | case4 => cases hParse
  | case5 => cases hParse
  | case6 options word hSwitch flag hFlag value words setting
      hRead ih =>
      have hSetting := Flag.ne_switch_of_read hRead .noIntern
      rw [List.mem_cons, List.mem_cons, not_or, not_or]
        at hWords
      exact (ih hWords.2.2 hParse).trans
        (intern_set hSetting options)

end Options

end Cli

end LatticeGas

------------------------------------------------------------
-- Other Workers
------------------------------------------------------------

namespace LatticeGas

namespace Cli

open Tracker

/-
  The number of workers is no part of a plan, if all of them
  are started.
-/
theorem Options.plan_of_otherGrid
    {machine : Machine}
    {options other : Options}
    {first second : Option Nat}
    (hOther : options.OtherGrid other)
    (hFirst :
      options.grid.workers machine options.size = .ok first)
    (hSecond :
      other.grid.workers machine options.size = .ok second) :
    other.plan machine = options.plan machine := by
  rcases hOther with ⟨config, rfl⟩
  have hMake :
      ({ options with grid := config } : Options).gas
          machine =
        (options.gas machine).map fun gas =>
          { gas with workers := second } := by
    unfold Options.gas Grid.random
    exact Grid.make_of_workers hFirst hSecond _
  rw [plan_eq, plan_eq, hMake]
  cases options.gas machine with
  | error failure => rfl
  | ok gas =>
      have hBuild :
          build ({ gas with workers := second } : Grid)
              options.tracker =
            build gas options.tracker :=
        @build_congr Grid Grid _ _ { gas with
          workers := second } gas rfl (fun _ _ _ _ => rfl)
          options.tracker
      simp only [Except.map, hBuild]
      rfl

end Cli

end LatticeGas

------------------------------------------------------------
-- Other Configurations
------------------------------------------------------------

namespace LatticeGas

namespace Tracker

/-
  Twins take the same macro steps, unless the second one runs
  out of numbers for nodes because it does not share them.
-/
theorem Twins.concur_course
    {configLeft configRight : Config}
    (hAlike : Config.Alike configLeft configRight)
    {left right : Tracker}
    (hTwins : Twins configLeft configRight left right)
    {count : Nat}
    (hNone :
      ∀ fault,
        (right.course count).ending = .error fault →
          ¬ Arena.Spared configRight.intern fault) :
    (left.course count).taken =
        (right.course count).taken ∧
      Concur (fun _ => False) (Twins configLeft configRight)
        (left.course count).ending
        (right.course count).ending := by
  induction count generalizing left right with
  | zero => exact ⟨rfl, .ok hTwins⟩
  | succ count ih =>
      have hConcur := hTwins.concur_call hAlike
      have hLeft := advance_eq_call left
      have hRight := advance_eq_call right
      generalize left.call = first at hConcur hLeft
      generalize right.call = second at hConcur hRight
      cases hConcur with
      | error fault =>
          rw [course_of_error hLeft, course_of_error hRight]
          exact ⟨rfl, .error fault⟩
      | spared first hSpared =>
          rw [course_of_error hRight] at hNone
          exact absurd hSpared (hNone _ rfl)
      | @ok call call' hCall =>
          rw [course_of_ok hRight] at hNone
          rw [course_of_ok hLeft, course_of_ok hRight]
          rcases ih hCall.after hNone with
            ⟨hTaken, hEnding⟩
          exact ⟨congrArg Nat.succ hTaken, hEnding⟩

end Tracker

namespace Cli

open Tracker

/- The run stopped as the numbers for nodes are used up. -/
def Trace.Exhausted (trace : Trace) : Prop :=
  trace.failure = some (.snapshot (.broken .exhausted)) ∨
    trace.failure = some (.fault .exhausted)

variable {machine : Machine}
variable {options : Options}
variable {config : Tracker.Config}

/-
  Two plans that differ in the tracker only have the same gas
  and are outlined from twins, or neither run starts.
-/
theorem Options.concur_plan
    (hShares : options.tracker.intern = true)
    (config : Tracker.Config)
    (machine : Machine) :
    Concur
      (fun error =>
        config.intern = false ∧
          error = RunError.snapshot (.broken .exhausted))
      (fun left right =>
        ∃ (particles : Nat) (first second : Tracker),
          Twins options.tracker config first second ∧
            left = options.outline particles first ∧
            right = options.outline particles second)
      (options.plan machine)
      (({ options with tracker := config } : Options).plan
        machine) := by
  have hGas :
      ({ options with tracker := config } : Options).gas
          machine =
        options.gas machine :=
    rfl
  rw [plan_eq, plan_eq, hGas]
  cases options.gas machine with
  | error failure => exact .error _
  | ok gas =>
      have hConcur := concur_build hShares config gas
      simp only
      generalize build gas options.tracker = first
        at hConcur ⊢
      generalize build gas config = second at hConcur ⊢
      cases hConcur with
      | error failure => exact .error _
      | @spared _ failure hSpared =>
          rcases Config.of_spares hSpared with ⟨hPlain, rfl⟩
          exact .spared _ ⟨hPlain, rfl⟩
      | ok hTwins =>
          simp only
          split
          · exact .ok ⟨_, _, _, hTwins, rfl, rfl⟩
          · exact .error _

/-
  Trackers that end as twins are told apart by their nodes.
  If both of them share nodes, these are equally many.
-/
theorem exists_stats_of_ending
    {configLeft configRight : Tracker.Config}
    {left right : Except Fault Tracker}
    (hEnding :
      Concur (fun _ => False) (Twins configLeft configRight)
        left right) :
    ∃ stats : Stats,
      right.map Tracker.stats =
          (left.map Tracker.stats).map (fun _ => stats) ∧
        (configRight.intern = true →
          right.map Tracker.stats =
            (left.map Tracker.stats).map fun own =>
              { own with memoized := stats.memoized }) := by
  cases hEnding with
  | error fault => exact ⟨⟨0, 0, #[]⟩, rfl, fun _ => rfl⟩
  | spared left hNone => exact hNone.elim
  | @ok first second hTwins =>
      refine ⟨second.stats, rfl, fun hShares => ?_⟩
      have hSame := hTwins.snapshot_eq hShares
      have hNodes : first.stats.nodes = second.stats.nodes :=
        congrArg Snapshot.nodes hSame
      have hLevels :
          first.stats.perLevel = second.stats.perLevel :=
        congrArg Snapshot.perLevel hSame
      change Except.ok second.stats =
        Except.ok ⟨first.stats.nodes, second.stats.memoized,
          first.stats.perLevel⟩
      rw [hNodes, hLevels]

/- Courses of one length are outlined alike. -/
theorem Options.outline_eq_mapStats
    {first second : Tracker}
    {change : Stats → Stats}
    (hTaken :
      (first.course options.advances).taken =
        (second.course options.advances).taken)
    (hEnding :
      (second.course options.advances).ending.map
          Tracker.stats =
        ((first.course options.advances).ending.map
          Tracker.stats).map change)
    (particles : Nat) :
    options.outline particles second =
      (options.outline particles first).mapStats change := by
  unfold outline Outline.mapStats
  simp only
  rw [hTaken, hEnding]

/- A course that ends so exhausts the numbers of its run. -/
theorem Options.exhausted_trace_outline
    {tracker : Tracker}
    (hEnding :
      (tracker.course options.advances).ending =
        .error .exhausted)
    (particles : Nat)
    (check : Bool) :
    Trace.Exhausted
      ((options.outline particles tracker).trace check) := by
  right
  unfold Outline.trace Outline.failure outline
  simp only [hEnding, Except.map]

/-
  Compared with a run that shares nodes, one with another
  configuration tells other nodes. It may run out of numbers
  for them if it does not share them. If it does, it differs
  in a single number.
-/
theorem Options.trace_of_config
    (hShares : options.tracker.intern = true)
    (hAlike : Config.Alike options.tracker config)
    (machine : Machine)
    (check : Bool) :
    let plain := (options.plan machine).trace check
    let other :=
      Plan.trace
        (({ options with tracker := config } : Options).plan
          machine) check
    config.intern = true ∨ ¬ other.Exhausted →
      ∃ stats : Stats,
        other = plain.mapStats (fun _ => stats) ∧
          (config.intern = true →
            other =
              plain.mapStats fun own =>
                { own with memoized := stats.memoized }) := by
  intro plain other hNone
  have hNever :
      config.intern = false → ¬ other.Exhausted := by
    intro hPlain
    apply hNone.resolve_left
    rw [hPlain]
    exact Bool.false_ne_true
  have hConcur := concur_plan hShares config machine
  change Concur _ _ (options.plan machine) _ at hConcur
  simp only [plain, other] at hNever ⊢
  generalize options.plan machine = left at hConcur ⊢
  generalize Options.plan _ machine = right
    at hConcur hNever ⊢
  cases hConcur with
  | error error => exact ⟨⟨0, 0, #[]⟩, rfl, fun _ => rfl⟩
  | spared left hSpared =>
      rcases hSpared with ⟨hPlain, rfl⟩
      exact absurd (Or.inl rfl) (hNever hPlain)
  | ok hOutlines =>
      rcases hOutlines with
        ⟨particles, first, second, hTwins, rfl, rfl⟩
      have hEnough :
          ∀ fault,
            (second.course options.advances).ending =
                .error fault →
              ¬ Arena.Spared config.intern fault := by
        rintro fault hEnding ⟨hPlain, rfl⟩
        exact hNever hPlain
          (exhausted_trace_outline hEnding particles check)
      rcases hTwins.concur_course hAlike hEnough with
        ⟨hTaken, hEnding⟩
      rcases exists_stats_of_ending hEnding with
        ⟨stats, hOther, hOwn⟩
      refine ⟨stats, ?_, fun hIntern => ?_⟩
      · rw [outline_eq_mapStats hTaken hOther]
        exact Outline.trace_mapStats _ _ check
      · rw [outline_eq_mapStats hTaken (hOwn hIntern)]
        exact Outline.trace_mapStats _ _ check

end Cli

end LatticeGas

------------------------------------------------------------
-- Runs with One More Word
------------------------------------------------------------

namespace LatticeGas

namespace Cli

open Tracker

variable {machine : Machine}
variable {options : Options}

/- Other numbers of nodes that replace others. -/
theorem Trace.mapStats_const
    (trace : Trace)
    (first second : Stats) :
    (trace.mapStats fun _ => first).mapStats
        (fun _ => second) =
      trace.mapStats fun _ => second :=
  trace.mapStats_mapStats _ _

/-
  Two runs that differ in the tracker only tell other nodes,
  unless one of them runs out of numbers for nodes.
-/
theorem Options.trace_of_configs
    (left right : Tracker.Config)
    (hLeft : left.compactThreshold = none)
    (hRight : right.compactThreshold = none)
    (options : Options)
    (machine : Machine)
    (check : Bool) :
    let first :=
      Plan.trace
        (({ options with tracker := left } : Options).plan
          machine) check
    let second :=
      Plan.trace
        (({ options with tracker := right } : Options).plan
          machine) check
    ¬ first.Exhausted → ¬ second.Exhausted →
      ∃ stats : Stats,
        second = first.mapStats fun _ => stats := by
  intro first second hFirst hSecond
  let shared : Options := { options with tracker := {} }
  rcases shared.trace_of_config rfl
      (⟨hLeft.symm, Or.inl rfl⟩ : Config.Alike {} left)
      machine check (Or.inr hFirst) with
    ⟨other, hOther, -⟩
  rcases shared.trace_of_config rfl
      (⟨hRight.symm, Or.inl rfl⟩ : Config.Alike {} right)
      machine check (Or.inr hSecond) with
    ⟨stats, hStats, -⟩
  refine ⟨stats, ?_⟩
  change first = _ at hOther
  change second = _ at hStats
  rw [hOther, hStats, Trace.mapStats_const]

/-
  The words that tune a run change nothing of what it shows.
  For every command line that is read, a number of workers
  that is put between its options leaves the run as it is, if
  both runs get their workers. Without memory only the number
  of remembered steps is another one, or the nodes if they are
  not shared. Without sharing the nodes are others. A run that
  does not share nodes may be the only one to run out of
  numbers for them. The nodes are told by the last lines.
-/
theorem trace_of_tuning
    {before after : List String}
    {early : Options}
    (hBefore : Options.parse before = .ok early)
    (hParse : Options.parse (before ++ after) = .ok options) :
    let plain := Cli.trace machine (before ++ after)
    let forgetful :=
      Cli.trace machine
        (before ++ Switch.noMemoize.word :: after)
    let wasteful :=
      Cli.trace machine
        (before ++ Switch.noIntern.word :: after)
    (∀ (value : String) (setting : Setting),
      Flag.threads.read value = .ok setting →
        let words :=
          before ++ Flag.threads.word :: value :: after
        ∃ tuned : Options,
          Options.parse words = .ok tuned ∧
            ∀ first second : Option Nat,
              options.grid.workers machine options.size =
                  .ok first →
                tuned.grid.workers machine options.size =
                    .ok second →
                  Cli.trace machine words = plain) ∧
    (Switch.noIntern.word ∉ before ++ after →
      ∃ memoized : Nat,
        forgetful =
          plain.mapStats fun own =>
            { own with memoized := memoized }) ∧
    (¬ plain.Exhausted → ¬ forgetful.Exhausted →
      ∃ stats : Stats,
        forgetful = plain.mapStats fun _ => stats) ∧
    (¬ plain.Exhausted → ¬ wasteful.Exhausted →
      ∃ stats : Stats,
        wasteful = plain.mapStats fun _ => stats) ∧
    ∀ timing : Timing, ∃ head : List String,
      plain.lines timing =
          head ++ plain.stats.flatMap Stats.lines ∧
        ∀ change : Stats → Stats,
          (plain.mapStats change).lines timing =
            head ++
              (plain.stats.map change).flatMap
                Stats.lines := by
  have hNone := Options.compactThreshold_of_parse hParse
  have hSwitch :=
    Options.parse_insert_switch hBefore hParse
  intro plain forgetful wasteful
  have hPlain :
      plain = (options.plan machine).trace options.check :=
    trace_eq_plan hParse
  have hForgetful :
      forgetful =
        Plan.trace
          (({ options with
            tracker := options.tracker.withMemoize false } :
              Options).plan machine) options.check :=
    trace_eq_plan (hSwitch .noMemoize)
  have hWasteful :
      wasteful =
        Plan.trace
          (({ options with
            tracker := options.tracker.withIntern false } :
              Options).plan machine) options.check :=
    trace_eq_plan (hSwitch .noIntern)
  refine ⟨?_, ?_, ?_, ?_, ?_⟩
  · intro value setting hRead words
    rcases Options.parse_insert_threads hBefore hParse hRead
      with ⟨tuned, hTuned, hOther⟩
    refine ⟨tuned, hTuned, ?_⟩
    intro first second hFirst hSecond
    rw [trace_eq_plan hTuned, hPlain,
      Options.plan_of_otherGrid hOther hFirst hSecond]
    rcases hOther with ⟨config, rfl⟩
    rfl
  · intro hWords
    have hShares : options.tracker.intern = true :=
      Options.intern_of_not_mem hWords hParse
    have hAlike :
        Config.Alike options.tracker
          (options.tracker.withMemoize false) :=
      ⟨rfl, Or.inl hNone⟩
    rcases Options.trace_of_config hShares hAlike machine
        options.check (Or.inl hShares) with
      ⟨stats, -, hOwn⟩
    rw [hForgetful, hPlain]
    exact ⟨stats.memoized, hOwn hShares⟩
  · rw [hForgetful, hPlain]
    exact Options.trace_of_configs options.tracker
      (options.tracker.withMemoize false) hNone hNone options
      machine options.check
  · rw [hWasteful, hPlain]
    exact Options.trace_of_configs options.tracker
      (options.tracker.withIntern false) hNone hNone options
      machine options.check
  · intro timing
    rw [hPlain]
    exact Plan.exists_head _ options.check timing

/- A run that comes to its end has had enough numbers. -/
theorem not_exhausted_of_ending
    {words : List String}
    {outline : Outline}
    {stats : Stats}
    (hParse : Options.parse words = .ok options)
    (hPlan : options.plan machine = .ok outline)
    (hEnding : outline.ending = .ok stats) :
    ¬ (Cli.trace machine words).Exhausted := by
  have hFailure : (Cli.trace machine words).failure = none := by
    rw [trace_eq_plan hParse, hPlan]
    unfold Plan.trace Outline.trace Outline.failure
    simp only [hEnding]
  unfold Trace.Exhausted
  rw [hFailure]
  simp

/- Words that are put into a checked run of side three. -/
theorem trace_of_tuning_three_wide :
    ∃ (memoized : Nat) (stats : Stats),
      let plain :=
        Cli.trace Machine.sequential
          ["--size", "3", "--check"]
      Cli.trace Machine.sequential
          ["--size", "3", "--threads", "2", "--check"] =
        plain ∧
      Cli.trace Machine.sequential
          ["--size", "3", "--no-memoize", "--check"] =
        plain.mapStats (fun own =>
          { own with memoized := memoized }) ∧
      Cli.trace Machine.sequential
          ["--size", "3", "--no-intern", "--check"] =
        plain.mapStats fun _ => stats := by
  have hBefore :
      Options.parse ["--size", "3"] = .ok { size := 3 } :=
    rfl
  have hParse :
      Options.parse (["--size", "3"] ++ ["--check"]) =
        .ok { size := 3, check := true } :=
    rfl
  have hRead : Flag.threads.read "2" = .ok (.threads 2) :=
    rfl
  have hShared :
      Switch.noIntern.word ∉
        ["--size", "3"] ++ ["--check"] := by
    decide
  -- A gas of side three is small enough for any tracker.
  have hEnough :
      ∀ (config : Tracker.Config) (words : List String),
        Options.parse words =
            .ok { size := 3, check := true,
                  tracker := config } →
          ¬ (Cli.trace Machine.sequential words).Exhausted :=
      by
    intro config words hWords
    let options : Options :=
      { size := 3, check := true, tracker := config }
    rcases options.exists_plan_three_wide rfl rfl rfl with
      ⟨outline, stats, hPlan, hEnding⟩
    exact not_exhausted_of_ending hWords hPlan hEnding
  rcases trace_of_tuning hBefore hParse with
    ⟨hThreads, hForgetful, -, hWasteful, -⟩
  rcases hThreads "2" _ hRead with ⟨tuned, hTuned, hSame⟩
  cases hTuned
  rcases hForgetful hShared with ⟨memoized, hForgetful⟩
  rcases hWasteful (hEnough _ _ hParse) (hEnough _ _ rfl) with
    ⟨stats, hWasteful⟩
  exact ⟨memoized, stats, hSame none none rfl rfl,
    hForgetful, hWasteful⟩

end Cli

end LatticeGas

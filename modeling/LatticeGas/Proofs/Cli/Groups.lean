import LatticeGas.Proofs.Cli.Settings

/-
  This file shows that a command line is read group by group.
  A group is a switch, or a flag with the value behind it. Of
  the groups of one option the last one counts, and the order
  of groups of different options does not matter. A command
  line that is refused is refused for the first group that
  cannot be read, whatever stands before and behind it.

  Key definitions include:
    * `Cli.OptionGroup`
    * `Cli.OptionGroup.spell`
    * `Cli.OptionGroup.last?`
    * `Cli.Offence`

  Key theorems include:
    * `Cli.OptionGroup.spell_injective`
    * `Cli.Options.parseFrom_spell`
    * `Cli.Options.exists_spell_of_parseFrom`
    * `Cli.Options.parseFrom_reordered`
    * `Cli.Options.exists_offence_of_parseFrom`
    * `Cli.Options.parse_by_groups`
-/

------------------------------------------------------------
-- Groups of Words
------------------------------------------------------------

namespace LatticeGas

namespace Cli

/- The words of one option: a switch, or a flag and a value. -/
inductive OptionGroup where
  | switch (which : Switch)
  | flag (which : Flag) (value : String)
  deriving DecidableEq

namespace OptionGroup

/- The option that a group is about. -/
def name : OptionGroup → OptionName
| .switch which => .inr which
| .flag which _ => .inl which

def words : OptionGroup → List String
| .switch which => [which.word]
| .flag which value => [which.word, value]

/- The setting that a group stands for, if it can be read. -/
def setting : OptionGroup → Except UsageError Setting
| .switch which => .ok (.switch which)
| .flag which value => which.read value

/- The command line that is made of several groups. -/
def spell (groups : List OptionGroup) : List String :=
  groups.flatMap words

/- The setting of the last group of an option. -/
def last?
    (name : OptionName)
    (groups : List OptionGroup) :
    Option (Except UsageError Setting) :=
  (groups.filter fun group =>
    group.name = name).getLast?.map setting

end OptionGroup

theorem Flag.word_eq_of_ofWord?
    {word : String}
    {flag : Flag}
    (hWord : Flag.ofWord? word = some flag) :
    flag.word = word := by
  have hFound := List.find?_some hWord
  exact of_decide_eq_true hFound

@[simp] theorem Flag.ofWord?_word
    (flag : Flag) :
    Flag.ofWord? flag.word = some flag := by
  cases flag with
  | size => decide
  | temperature => decide
  | advances => decide
  | seed => decide
  | threads => decide

/- No flag is spelled like a switch. -/
@[simp] theorem Switch.ofWord?_flag_word
    (flag : Flag) :
    Switch.ofWord? flag.word = none := by
  cases flag with
  | size => decide
  | temperature => decide
  | advances => decide
  | seed => decide
  | threads => decide

/- A flag reads settings of its own. -/
theorem Flag.name_of_read
    {flag : Flag}
    {value : String}
    {setting : Setting}
    (hRead : flag.read value = .ok setting) :
    setting.name = .inl flag := by
  cases flag <;>
    simp only [Flag.read, Except.map] at hRead <;>
    split at hRead <;> cases hRead <;> rfl

namespace OptionGroup

variable {groups other : List OptionGroup}
variable {settings : List Setting}

theorem name_of_setting
    {group : OptionGroup}
    {setting : Setting}
    (hSetting : group.setting = .ok setting) :
    setting.name = group.name := by
  cases group with
  | switch which =>
      cases hSetting
      rfl
  | flag which value => exact Flag.name_of_read hSetting

/- Settings of an option come from the groups of the option. -/
theorem map_filter_of_mapM
    (hSettings : groups.mapM setting = .ok settings)
    (name : OptionName) :
    (groups.filter fun group => group.name = name).map
        setting =
      (settings.filter fun setting =>
        setting.name = name).map .ok := by
  induction groups generalizing settings with
  | nil =>
      cases hSettings
      rfl
  | cons group groups ih =>
      rw [List.mapM_cons] at hSettings
      cases hFirst : group.setting with
      | error error =>
          rw [hFirst] at hSettings
          cases hSettings
      | ok first =>
          cases hRest : groups.mapM setting with
          | error error =>
              rw [hFirst, hRest] at hSettings
              cases hSettings
          | ok rest =>
              rw [hFirst, hRest] at hSettings
              cases hSettings
              have hSame := name_of_setting hFirst
              by_cases hName : group.name = name
              · simp [hName, hSame, hFirst, ih hRest]
              · simp [hName, hSame, ih hRest]

theorem last?_of_mapM
    (hSettings : groups.mapM setting = .ok settings)
    (name : OptionName) :
    last? name groups =
      (Setting.last? name settings).map .ok := by
  unfold last? Setting.last?
  rw [← List.getLast?_map, map_filter_of_mapM hSettings,
    List.getLast?_map]

/- Groups are read if all of them can be read. -/
theorem exists_mapM_of_forall
    (hGroups :
      ∀ group ∈ groups,
        ∃ setting, group.setting = .ok setting) :
    ∃ settings, groups.mapM setting = .ok settings := by
  induction groups with
  | nil => exact ⟨[], rfl⟩
  | cons group groups ih =>
      rcases hGroups group (by simp) with ⟨first, hFirst⟩
      have hOthers :
          ∀ other ∈ groups,
            ∃ setting, other.setting = .ok setting :=
        fun other hOther => hGroups other (by simp [hOther])
      rcases ih hOthers with ⟨rest, hRest⟩
      refine ⟨first :: rest, ?_⟩
      rw [List.mapM_cons, hFirst, hRest]
      rfl

theorem exists_setting_of_mapM
    (hSettings : groups.mapM setting = .ok settings)
    {group : OptionGroup}
    (hGroup : group ∈ groups) :
    ∃ setting, group.setting = .ok setting := by
  have hMem :
      group.setting ∈
        (groups.filter fun other =>
          other.name = group.name).map setting :=
    List.mem_map_of_mem
      (List.mem_filter.mpr ⟨hGroup, by simp⟩)
  rw [map_filter_of_mapM hSettings] at hMem
  rcases List.mem_map.mp hMem with ⟨found, -, hFound⟩
  exact ⟨found, hFound.symm⟩

theorem switch_word_ne_flag_word
    (which : Switch)
    (flag : Flag) :
    which.word ≠ flag.word := by
  intro hWord
  have hSwitch := Switch.ofWord?_word which
  rw [hWord, Switch.ofWord?_flag_word] at hSwitch
  cases hSwitch

/- Different groups are spelled differently. -/
theorem spell_injective
    (hSame : spell groups = spell other) :
    groups = other := by
  induction groups generalizing other with
  | nil =>
      cases other with
      | nil => rfl
      | cons group other => cases group <;> cases hSame
  | cons group groups ih =>
      cases other with
      | nil => cases group <;> cases hSame
      | cons group' other =>
          rw [spell, spell, List.flatMap_cons,
            List.flatMap_cons] at hSame
          cases group with
          | switch which =>
              cases group' with
              | switch which' =>
                  injection hSame with hWord hRest
                  have hWhich := Switch.ofWord?_word which
                  rw [hWord, Switch.ofWord?_word] at hWhich
                  cases hWhich
                  rw [ih hRest]
              | flag which' value' =>
                  injection hSame with hWord
                  exact absurd hWord
                    (switch_word_ne_flag_word which which')
          | flag which value =>
              cases group' with
              | switch which' =>
                  injection hSame with hWord
                  exact absurd hWord.symm
                    (switch_word_ne_flag_word which' which)
              | flag which' value' =>
                  injection hSame with hWord hTail
                  injection hTail with hValue hRest
                  have hWhich := Flag.ofWord?_word which
                  rw [hWord, Flag.ofWord?_word] at hWhich
                  cases hWhich
                  rw [hValue, ih hRest]

end OptionGroup

end Cli

end LatticeGas

------------------------------------------------------------
-- Reading Group by Group
------------------------------------------------------------

namespace LatticeGas

namespace Cli

namespace Options

open OptionGroup

variable {options parsed : Options}
variable {groups other : List OptionGroup}
variable {settings : List Setting}
variable {words : List String}

/- A group is read, and then the words behind it. -/
theorem parseFrom_group
    (options : Options)
    (group : OptionGroup)
    (rest : List String) :
    options.parseFrom (group.words ++ rest) =
      group.setting.bind fun setting =>
        (options.set setting).parseFrom rest := by
  cases group with
  | switch which =>
      exact parseFrom_switch (Switch.ofWord?_word which)
  | flag which value =>
      cases hRead : which.read value with
      | ok setting =>
          rw [OptionGroup.setting, hRead]
          exact parseFrom_flag (Switch.ofWord?_flag_word which)
            (Flag.ofWord?_word which) hRead
      | error error =>
          rw [OptionGroup.setting, hRead, OptionGroup.words,
            List.cons_append, parseFrom]
          simp only [Switch.ofWord?_flag_word,
            Flag.ofWord?_word, List.cons_append, hRead]
          rfl

/- So are several groups. All their settings are made. -/
theorem parseFrom_spell
    (options : Options)
    (groups : List OptionGroup) :
    options.parseFrom (spell groups) =
      (groups.mapM setting).map options.setAll := by
  induction groups generalizing options with
  | nil => rfl
  | cons group groups ih =>
      rw [spell, List.flatMap_cons, parseFrom_group,
        List.mapM_cons]
      cases group.setting with
      | error error => rfl
      | ok first =>
          change
            (options.set first).parseFrom (spell groups) = _
          rw [ih]
          cases groups.mapM setting with
          | error error => rfl
          | ok rest => rfl

theorem exists_settings_of_parseFrom
    (hParse : options.parseFrom (spell groups) = .ok parsed) :
    ∃ settings,
      groups.mapM setting = .ok settings ∧
        options.setAll settings = parsed := by
  rw [parseFrom_spell] at hParse
  cases hSettings : groups.mapM setting with
  | error error =>
      rw [hSettings] at hParse
      cases hParse
  | ok settings =>
      rw [hSettings] at hParse
      exact ⟨settings, rfl, Except.ok.inj hParse⟩

/- Whatever is read consists of groups. -/
theorem exists_spell_of_parseFrom
    (hParse : options.parseFrom words = .ok parsed) :
    ∃ groups, spell groups = words := by
  fun_induction parseFrom options words with
  | case1 options => exact ⟨[], rfl⟩
  | case2 options word words switch hSwitch ih =>
      rcases ih hParse with ⟨groups, rfl⟩
      refine ⟨.switch switch :: groups, ?_⟩
      rw [← Switch.word_eq_of_ofWord? hSwitch]
      rfl
  | case3 => cases hParse
  | case4 => cases hParse
  | case5 => cases hParse
  | case6 options word hSwitch flag hFlag value words setting
      hRead ih =>
      rcases ih hParse with ⟨groups, rfl⟩
      refine ⟨.flag flag value :: groups, ?_⟩
      rw [← Flag.word_eq_of_ofWord? hFlag]
      rfl

/- Groups with the same last settings are read alike. -/
theorem parseFrom_eq_of_last?_eq
    {parsed' : Options}
    (hParse : options.parseFrom (spell groups) = .ok parsed)
    (hParse' : options.parseFrom (spell other) = .ok parsed')
    (hLast :
      ∀ name, last? name groups = last? name other) :
    parsed = parsed' := by
  rcases exists_settings_of_parseFrom hParse with
    ⟨settings, hSettings, rfl⟩
  rcases exists_settings_of_parseFrom hParse' with
    ⟨settings', hSettings', rfl⟩
  apply setAll_eq_of_last?_eq
  intro name
  have hSame := hLast name
  rw [last?_of_mapM hSettings, last?_of_mapM hSettings']
    at hSame
  exact Option.map_injective (fun _ _ => Except.ok.inj) hSame

/- Groups of different options may be put in another order. -/
theorem parseFrom_reordered
    (hParse : options.parseFrom (spell groups) = .ok parsed)
    (hOrder :
      ∀ name,
        (groups.filter fun group => group.name = name) =
          other.filter fun group => group.name = name) :
    options.parseFrom (spell other) = .ok parsed := by
  rcases exists_settings_of_parseFrom hParse with
    ⟨settings, hSettings, -⟩
  have hOther :
      ∀ group ∈ other,
        ∃ setting, group.setting = .ok setting := by
    intro group hGroup
    have hMem :
        group ∈
          other.filter fun found => found.name = group.name :=
      List.mem_filter.mpr ⟨hGroup, by simp⟩
    rw [← hOrder, List.mem_filter] at hMem
    exact exists_setting_of_mapM hSettings hMem.1
  rcases exists_mapM_of_forall hOther with
    ⟨settings', hSettings'⟩
  have hParse' :
      options.parseFrom (spell other) =
        .ok (options.setAll settings') := by
    rw [parseFrom_spell, hSettings']
    rfl
  have hLast :
      ∀ name, last? name groups = last? name other := by
    intro name
    rw [last?, last?, hOrder]
  rw [hParse', parseFrom_eq_of_last?_eq hParse hParse' hLast]

end Options

end Cli

end LatticeGas

------------------------------------------------------------
-- The First Group That Cannot Be Read
------------------------------------------------------------

namespace LatticeGas

namespace Cli

/-
  What cannot be read: a word that is no option, a flag at the
  end, or a flag with a value that it does not take.
-/
inductive Offence where
  | unknownWord (word : String)
  | missingValue (flag : Flag)
  | unreadable (flag : Flag) (value : String)

namespace Offence

def words : Offence → List String
| .unknownWord word => [word]
| .missingValue flag => [flag.word]
| .unreadable flag value => [flag.word, value]

/- What is wrong with the words, if anything is. -/
def error? : Offence → Option UsageError
| .unknownWord word =>
    if Switch.ofWord? word = none ∧
        Flag.ofWord? word = none then
      some (.unknownWord word)
    else
      none
| .missingValue flag => some (.missingValue flag)
| .unreadable flag value =>
    match flag.read value with
    | .ok _ => none
    | .error error => some error

/- A value is missing only at the end of a command line. -/
def Precedes (rest : List String) : Offence → Prop
| .missingValue _ => rest = []
| .unknownWord _ => True
| .unreadable _ _ => True

end Offence

namespace Options

variable {options : Options}
variable {error : UsageError}
variable {words : List String}

/- What cannot be read is refused, whatever follows it. -/
theorem parseFrom_offence
    (options : Options)
    {offence : Offence}
    {rest : List String}
    (hError : offence.error? = some error)
    (hRest : offence.Precedes rest) :
    options.parseFrom (offence.words ++ rest) =
      .error error := by
  cases offence with
  | unknownWord word =>
      rw [Offence.error?] at hError
      split at hError
      · next hWord =>
          cases hError
          rw [Offence.words, List.singleton_append, parseFrom]
          simp only [hWord]
      · cases hError
  | missingValue flag =>
      cases hError
      cases hRest
      rw [Offence.words, List.append_nil, parseFrom]
      simp only [Switch.ofWord?_flag_word, Flag.ofWord?_word]
  | unreadable flag value =>
      have hRead : flag.read value = .error error := by
        rw [Offence.error?] at hError
        split at hError
        · cases hError
        · next found hFound =>
            cases hError
            exact hFound
      have hGroup :=
        parseFrom_group options (.flag flag value) rest
      rw [OptionGroup.setting, hRead] at hGroup
      exact hGroup

/- A refused command line begins with groups and an offence. -/
theorem exists_offence_of_parseFrom
    (hParse : options.parseFrom words = .error error) :
    ∃ (before : List String) (parsed : Options)
      (offence : Offence) (rest : List String),
      options.parseFrom before = .ok parsed ∧
        words = before ++ (offence.words ++ rest) ∧
        offence.Precedes rest ∧
        offence.error? = some error := by
  fun_induction parseFrom options words with
  | case1 => cases hParse
  | case2 options word words switch hSwitch ih =>
      rcases ih hParse with
        ⟨before, parsed, offence, rest, hBefore, rfl,
          hOffence⟩
      refine ⟨word :: before, parsed, offence, rest, ?_, rfl,
        hOffence⟩
      rw [parseFrom_switch hSwitch, hBefore]
  | case3 options word words hSwitch hFlag =>
      cases hParse
      refine ⟨[], options, .unknownWord word, words, rfl, rfl,
        trivial, ?_⟩
      rw [Offence.error?, if_pos ⟨hSwitch, hFlag⟩]
  | case4 options word hSwitch flag hFlag =>
      cases hParse
      have hWord := Flag.word_eq_of_ofWord? hFlag
      subst hWord
      exact ⟨[], options, .missingValue flag, [], rfl, rfl,
        rfl, rfl⟩
  | case5 options word hSwitch flag hFlag value words error
      hRead =>
      cases hParse
      have hWord := Flag.word_eq_of_ofWord? hFlag
      subst hWord
      refine ⟨[], options, .unreadable flag value, words, rfl,
        rfl, trivial, ?_⟩
      rw [Offence.error?, hRead]
  | case6 options word hSwitch flag hFlag value words setting
      hRead ih =>
      rcases ih hParse with
        ⟨before, parsed, offence, rest, hBefore, rfl,
          hOffence⟩
      refine ⟨word :: value :: before, parsed, offence, rest,
        ?_, rfl, hOffence⟩
      rw [parseFrom_flag hSwitch hFlag hRead, hBefore]

/-
  A command line is read from left to right, group by group.
  Words that were read matter to those behind them by the
  options that they leave. Only the last setting of each
  option counts, so groups of different options may be put in
  another order. A command line is refused if and only if its
  groups are followed by something that cannot be read, and
  only this decides for what it is refused.
-/
theorem parse_by_groups :
    (∀ (before after : List String) (early : Options),
      parse before = .ok early →
        parse (before ++ after) = early.parseFrom after) ∧
      (∀ (words : List String) (options : Options),
        parse words = .ok options →
          ∃ groups,
            OptionGroup.spell groups = words ∧
              ∀ other, OptionGroup.spell other = words →
                other = groups) ∧
      (∀ (groups other : List OptionGroup)
        (options options' : Options),
        parse (OptionGroup.spell groups) = .ok options →
          parse (OptionGroup.spell other) = .ok options' →
            (∀ name,
              OptionGroup.last? name groups =
                OptionGroup.last? name other) →
              ∀ after : List String,
                parse (OptionGroup.spell groups ++ after) =
                  parse (OptionGroup.spell other ++ after)) ∧
      (∀ (groups other : List OptionGroup)
        (options : Options),
        parse (OptionGroup.spell groups) = .ok options →
          (∀ name,
            (groups.filter fun group => group.name = name) =
              other.filter fun group => group.name = name) →
            parse (OptionGroup.spell other) = .ok options) ∧
      ∀ (words : List String) (error : UsageError),
        parse words = .error error ↔
          ∃ (before : List String) (early : Options)
            (offence : Offence) (rest : List String),
            parse before = .ok early ∧
              words = before ++ (offence.words ++ rest) ∧
              offence.Precedes rest ∧
              offence.error? = some error := by
  refine
    ⟨fun _ after _ hBefore => parseFrom_append hBefore after,
      ?_, ?_, fun _ _ _ => parseFrom_reordered, ?_⟩
  · intro words options hParse
    rcases exists_spell_of_parseFrom hParse with
      ⟨groups, rfl⟩
    exact ⟨groups, rfl, fun _ =>
      OptionGroup.spell_injective⟩
  · intro groups other options options' hParse hParse' hLast
      after
    have hSame := parseFrom_eq_of_last?_eq hParse hParse' hLast
    calc
      parse (OptionGroup.spell groups ++ after)
          = options.parseFrom after :=
        parseFrom_append hParse after
      _ = options'.parseFrom after := by rw [hSame]
      _ = parse (OptionGroup.spell other ++ after) :=
        (parseFrom_append hParse' after).symm
  · intro words error
    constructor
    · exact exists_offence_of_parseFrom
    · rintro ⟨before, early, offence, rest, hBefore, rfl,
        hRest, hError⟩
      exact (parseFrom_append hBefore _).trans
        (parseFrom_offence early hError hRest)

/-
  A side that is given twice counts once, a switch may come
  first, and a word that is no number decides before one that
  is no option.
-/
theorem parse_by_groups_repeated_size :
    parse
        ["--size", "5", "--check", "--size", "3", "--seed"] =
      parse ["--size", "3", "--check", "--seed"] ∧
      parse ["--check", "--size", "3"] =
        .ok { size := 3, check := true } ∧
      parse ["--size", "3", "--advances", "x", "--fast"] =
        .error (.notUnsigned .advances .invalidDigit) := by
  let repeated : List OptionGroup :=
    [.flag .size "5", .switch .check, .flag .size "3"]
  let plain : List OptionGroup :=
    [.flag .size "3", .switch .check]
  let turned : List OptionGroup :=
    [.switch .check, .flag .size "3"]
  have hLast :
      ∀ name,
        OptionGroup.last? name repeated =
          OptionGroup.last? name plain := by
    rintro (flag | switch)
    · cases flag <;> rfl
    · cases switch <;> rfl
  have hOrder :
      ∀ name,
        (plain.filter fun group => group.name = name) =
          turned.filter fun group => group.name = name := by
    rintro (flag | switch)
    · cases flag <;> rfl
    · cases switch <;> rfl
  rcases parse_by_groups with
    ⟨-, -, hAlike, hTurned, hRefused⟩
  refine ⟨?_, ?_, ?_⟩
  · exact hAlike repeated plain _ _ rfl rfl hLast ["--seed"]
  · exact hTurned plain turned _ rfl hOrder
  · exact (hRefused _ _).mpr
      ⟨["--size", "3"], _, .unreadable .advances "x",
        ["--fast"], rfl, rfl, trivial, rfl⟩

end Options

end Cli

end LatticeGas

import LatticeGas.Grid.Basic
import LatticeGas.Numeral.Decimal
import LatticeGas.Tracker.Basic

/-
  This file defines the options of the program and how they
  are read from the words of its command line.

  Key definitions include:
    * `Cli.Options`
    * `Cli.Flag`
    * `Cli.Switch`
    * `Cli.Setting`
    * `Cli.UsageError`
    * `Cli.Flag.read`
    * `Cli.Options.parse`
-/

------------------------------------------------------------
-- Options
------------------------------------------------------------

namespace LatticeGas

namespace Cli

/-
  What a run of the program does: the side, temperature and
  seed of its random gas, the number of macro steps, whether
  they are checked, and how both representations work.
-/
structure Options where
  size : Nat := 64
  temperature : Float := 0.1
  advances : Nat := 8
  seed : UInt64 := 0x5EED1234ABCDEF01
  check : Bool := false
  grid : Grid.Config := {}
  tracker : Tracker.Config := {}

/- The words that are followed by a value. -/
inductive Flag where
  | size
  | temperature
  | advances
  | seed
  | threads
  deriving DecidableEq

/- The words that stand alone. -/
inductive Switch where
  | noMemoize
  | noIntern
  | check
  deriving DecidableEq

/- A flag with its value, or a switch. -/
inductive Setting where
  | size (side : Nat)
  | temperature (value : Float)
  | advances (count : Nat)
  | seed (seed : UInt64)
  | threads (count : Nat)
  | switch (switch : Switch)

/- Change the options by one setting. -/
def Options.set
    (options : Options) : Setting → Options
| .size side =>
    { options with size := side }
| .temperature value =>
    { options with temperature := value }
| .advances count =>
    { options with advances := count }
| .seed seed =>
    { options with seed := seed }
| .threads count =>
    { options with grid := options.grid.withThreads count }
| .switch .noMemoize =>
    { options with
      tracker := options.tracker.withMemoize false }
| .switch .noIntern =>
    { options with
      tracker := options.tracker.withIntern false }
| .switch .check =>
    { options with check := true }

end Cli

end LatticeGas

------------------------------------------------------------
-- Words
------------------------------------------------------------

namespace LatticeGas

namespace Cli

/- The word of a flag. -/
def Flag.word : Flag → String
| .size => "--size"
| .temperature => "--temperature"
| .advances => "--advances"
| .seed => "--seed"
| .threads => "--threads"

/- What kind of value a flag asks for. -/
def Flag.demand : Flag → String
| .size => "a positive integer"
| .temperature => "a number in [0, 1]"
| .advances => "a non-negative integer"
| .seed => "an unsigned integer"
| .threads => "a positive integer"

/- The flag of a word. -/
def Flag.ofWord? (word : String) : Option Flag :=
  [.size, .temperature, .advances, .seed, .threads].find?
    fun flag : Flag => flag.word = word

/- The word of a switch. -/
def Switch.word : Switch → String
| .noMemoize => "--no-memoize"
| .noIntern => "--no-intern"
| .check => "--check"

/- The switch of a word. -/
def Switch.ofWord? (word : String) : Option Switch :=
  [.noMemoize, .noIntern, .check].find?
    fun switch : Switch => switch.word = word

end Cli

end LatticeGas

------------------------------------------------------------
-- Values
------------------------------------------------------------

namespace LatticeGas

namespace Cli

/- The reasons for which words are no options. -/
inductive UsageError where
  | unknownWord (word : String)
  | missingValue (flag : Flag)
  | notUnsigned (flag : Flag) (error : Numeral.UnsignedError)
  | notDecimal (flag : Flag) (error : Numeral.DecimalError)
  deriving DecidableEq

/- How the program is called. -/
def usage : String :=
  "usage: gas-life [--size N] [--temperature T] " ++
    "[--advances K] [--seed S] [--threads N] " ++
    "[--no-memoize] [--no-intern] [--check]"

/- The sentences that explain a wrong use. -/
def UsageError.message : UsageError → String
| .unknownWord word =>
    s!"unknown argument: {word}\n{usage}"
| .missingValue flag =>
    s!"{flag.word} requires a value"
| .notUnsigned flag error =>
    s!"{flag.word} requires {flag.demand}: " ++
      s!"ParseIntError \x7b kind: {error.label} \x7d"
| .notDecimal flag error =>
    s!"{flag.word} requires {flag.demand}: " ++
      s!"ParseFloatError \x7b kind: {error.label} \x7d"

/- The largest number that has 64 bits. -/
def wordLimit : Nat :=
  18446744073709551615

/- The largest count of macro steps, which has 32 bits. -/
def advancesLimit : Nat :=
  4294967295

/- Read the unsigned value of a flag. -/
def Flag.readUnsigned
    (flag : Flag)
    (limit : Nat)
    (value : String) : Except UsageError Nat :=
  match Numeral.readUnsigned limit value with
  | .ok number => .ok number
  | .error error => .error (.notUnsigned flag error)

/- Read the decimal value of a flag. -/
def Flag.readDecimal
    (flag : Flag)
    (value : String) : Except UsageError Float :=
  match Numeral.readDecimal value with
  | .ok decimal => .ok decimal.toFloat
  | .error error => .error (.notDecimal flag error)

/- Read the value of a flag. -/
def Flag.read
    (flag : Flag)
    (value : String) : Except UsageError Setting :=
  match flag with
  | .size =>
      (flag.readUnsigned wordLimit value).map .size
  | .temperature =>
      (flag.readDecimal value).map .temperature
  | .advances =>
      (flag.readUnsigned advancesLimit value).map .advances
  | .seed =>
      (flag.readUnsigned wordLimit value).map fun seed =>
        .seed (UInt64.ofNat seed)
  | .threads =>
      (flag.readUnsigned wordLimit value).map .threads

end Cli

end LatticeGas

------------------------------------------------------------
-- Command Lines
------------------------------------------------------------

namespace LatticeGas

namespace Cli

/-
  Read the words of a command line, from left to right, on
  from the options that hold before them. A later setting
  replaces an earlier one.
-/
def Options.parseFrom
    (options : Options) :
    List String → Except UsageError Options
| [] => .ok options
| word :: words =>
    match Switch.ofWord? word with
    | some switch =>
        (options.set (.switch switch)).parseFrom words
    | none =>
        match Flag.ofWord? word with
        | none => .error (.unknownWord word)
        | some flag =>
            match words with
            | [] => .error (.missingValue flag)
            | value :: words =>
                match flag.read value with
                | .error error => .error error
                | .ok setting =>
                    (options.set setting).parseFrom words

/- Read the words of a command line. -/
def Options.parse
    (words : List String) : Except UsageError Options :=
  Options.parseFrom {} words

end Cli

end LatticeGas

import AimailBridge.Foundation.Text

/-!
# The command line

Options are read from left to right, and a value belongs to the option before it, whatever it looks
like.  What is accepted are exactly the sequences of options; of several options of one kind the
last one counts.
-/

namespace AimailBridge

open Foundation Text

/-- CLI args. -/
structure CliArgs where
  /-- Whether to run in the background. -/
  daemon : Bool
  /-- PID file. -/
  pidFile : Option Text
  /-- Log file. -/
  logFile : Option Text
  /-- Configuration file. -/
  configPath : Option Text
  deriving DecidableEq

/-- `CliArgs::default`. -/
def CliArgs.default : CliArgs :=
  ⟨false, none, none, none⟩

/-- How reading the arguments ends when there is no result. -/
inductive CliEnd
  /-- The help has been shown; the exit code is 0. -/
  | help
  /-- The flag is not known; the exit code is 1. -/
  | unknown (flag : Text)
  /-- A flag lacks its value, and the process panics. -/
  | missing
  deriving DecidableEq

/-- The flags. -/
inductive CliFlag
  /-- Run in the background. -/
  | daemon
  /-- A PID file follows. -/
  | pidFile
  /-- A log file follows. -/
  | logFile
  /-- A configuration file follows. -/
  | config
  /-- Show the help. -/
  | help
  deriving DecidableEq

/-- The flag that is spelled so. -/
def cliFlag (arg : Text) : Option CliFlag :=
  if arg = "--daemon".toList ∨ arg = "-d".toList then some .daemon
  else if arg = "--pid-file".toList then some .pidFile
  else if arg = "--log-file".toList then some .logFile
  else if arg = "--config".toList ∨ arg = "-c".toList then some .config
  else if arg = "--help".toList ∨ arg = "-h".toList then some .help
  else none

/-- Put a value in its place. -/
def CliArgs.set (cli : CliArgs) (value : Text) : CliFlag → CliArgs
  | .pidFile => { cli with pidFile := some value }
  | .logFile => { cli with logFile := some value }
  | .config => { cli with configPath := some value }
  | .daemon | .help => cli

/-- The loop of `parse_args` over the arguments after the program's name. -/
def parseLoop (cli : CliArgs) : List Text → Except CliEnd CliArgs
  | [] => .ok cli
  | arg :: rest =>
      match cliFlag arg with
      | some .daemon => parseLoop { cli with daemon := true } rest
      | some .help => .error .help
      | none => .error (.unknown arg)
      | some flag =>
          match rest with
          | [] => .error .missing
          | value :: rest => parseLoop (cli.set value flag) rest

/-- The loop of `parse_args_from`, in which what is not known is passed over. -/
def parseFromLoop (cli : CliArgs) : List Text → Except CliEnd CliArgs
  | [] => .ok cli
  | arg :: rest =>
      match cliFlag arg with
      | some .daemon => parseFromLoop { cli with daemon := true } rest
      | some .help | none => parseFromLoop cli rest
      | some flag =>
          match rest with
          | [] => .error .missing
          | value :: rest => parseFromLoop (cli.set value flag) rest

/-- Parse the arguments, of which the first is the program's name. -/
def parseArgs (args : List Text) : Except CliEnd CliArgs :=
  parseLoop .default args.tail

/-- Parse the arguments as tests do. -/
def parseArgsFrom (args : List Text) : Except CliEnd CliArgs :=
  parseFromLoop .default args.tail

/-! ## Sequences of options -/

/-- Whether a value follows the flag. -/
def CliFlag.takesValue : CliFlag → Bool
  | .pidFile | .logFile | .config => true
  | .daemon | .help => false

/-- An option with its value. -/
inductive CliOption
  /-- Run in the background. -/
  | daemon
  /-- A flag with its value. -/
  | setting (flag : CliFlag) (value : Text)

/-- The arguments after an option. -/
def CliArgs.apply (cli : CliArgs) : CliOption → CliArgs
  | .daemon => { cli with daemon := true }
  | .setting flag value => cli.set value flag

/-- The words spell the options, each in one of its spellings. -/
inductive Spells : List Text → List CliOption → Prop
  /-- No options. -/
  | nil : Spells [] []
  /-- A flag of its own. -/
  | daemon {arg : Text} {words : List Text} {options : List CliOption}
      (flagged : cliFlag arg = some .daemon) (later : Spells words options) :
      Spells (arg :: words) (.daemon :: options)
  /-- A flag with a value. -/
  | setting {arg : Text} {flag : CliFlag} {words : List Text} {options : List CliOption}
      (flagged : cliFlag arg = some flag) (valued : flag.takesValue = true) (value : Text)
      (later : Spells words options) :
      Spells (arg :: value :: words) (.setting flag value :: options)

/-- How reading ends where no further option is spelled. -/
inductive EndsAt (cli : CliArgs) : List Text → Except CliEnd CliArgs → Prop
  /-- Everything has been read. -/
  | done : EndsAt cli [] (.ok cli)
  /-- The help is asked for. -/
  | help {arg : Text} (flagged : cliFlag arg = some .help) (more : List Text) :
      EndsAt cli (arg :: more) (.error .help)
  /-- The next word is no flag. -/
  | unknown {arg : Text} (flagged : cliFlag arg = none) (more : List Text) :
      EndsAt cli (arg :: more) (.error (.unknown arg))
  /-- The last word is a flag that lacks its value. -/
  | missing {arg : Text} {flag : CliFlag} (flagged : cliFlag arg = some flag)
      (valued : flag.takesValue = true) : EndsAt cli [arg] (.error .missing)

section Reading

variable {cli : CliArgs} {arg value : Text} {flag : CliFlag} {words rest : List Text}
  {options : List CliOption} {outcome : Except CliEnd CliArgs}

theorem parseLoop_valued (flagged : cliFlag arg = some flag) (valued : flag.takesValue = true) :
    parseLoop cli (arg :: value :: rest) = parseLoop (cli.set value flag) rest := by
  cases flag with
  | daemon | help => cases valued
  | pidFile | logFile | config => rw [parseLoop, flagged]

/-- Options are read one after the other. -/
theorem parseLoop_append (spelled : Spells words options) (cli : CliArgs) (rest : List Text) :
    parseLoop cli (words ++ rest) = parseLoop (options.foldl CliArgs.apply cli) rest := by
  induction spelled generalizing cli with
  | nil => rfl
  | daemon flagged _ induction =>
      rw [List.cons_append, parseLoop, flagged]
      exact induction _
  | setting flagged valued value _ induction =>
      rw [List.cons_append, List.cons_append, parseLoop_valued flagged valued]
      exact induction _

theorem parseLoop_of_endsAt (ended : EndsAt cli rest outcome) : parseLoop cli rest = outcome := by
  cases ended with
  | done => rfl
  | help flagged | unknown flagged => rw [parseLoop, flagged]
  | @missing _ flag flagged valued =>
      cases flag with
      | daemon | help => cases valued
      | pidFile | logFile | config => rw [parseLoop, flagged]

theorem valued_of_ne (no_daemon : flag = .daemon → False) (no_help : flag = .help → False) :
    flag.takesValue = true := by
  cases flag with
  | daemon => exact (no_daemon rfl).elim
  | help => exact (no_help rfl).elim
  | pidFile | logFile | config => rfl

/-- Every list of arguments spells some options up to where reading ends. -/
theorem exists_spelled (cli : CliArgs) (args : List Text) :
    ∃ options words rest, args = words ++ rest ∧ Spells words options ∧
      EndsAt (options.foldl CliArgs.apply cli) rest (parseLoop cli args) := by
  fun_induction parseLoop cli args with
  | case1 cli => exact ⟨[], [], [], rfl, .nil, .done⟩
  | case2 cli arg rest flagged induction =>
      obtain ⟨options, words, rest, rfl, spelled, ended⟩ := induction
      exact ⟨.daemon :: options, arg :: words, rest, rfl, .daemon flagged spelled, ended⟩
  | case3 cli arg rest flagged => exact ⟨[], [], _, rfl, .nil, .help flagged rest⟩
  | case4 cli arg rest flagged => exact ⟨[], [], _, rfl, .nil, .unknown flagged rest⟩
  | case5 cli arg flag no_daemon no_help flagged =>
      exact ⟨[], [], _, rfl, .nil, .missing flagged (valued_of_ne no_daemon no_help)⟩
  | case6 cli arg flag no_daemon no_help flagged value rest induction =>
      obtain ⟨options, words, rest, rfl, spelled, ended⟩ := induction
      have valued := valued_of_ne no_daemon no_help
      exact ⟨.setting flag value :: options, arg :: value :: words, rest, rfl,
        .setting flagged valued value spelled, ended⟩

theorem parseFromLoop_agrees {args : List Text}
    (no_help : parseLoop cli args ≠ .error .help)
    (no_unknown : ∀ word, parseLoop cli args ≠ .error (.unknown word)) :
    parseFromLoop cli args = parseLoop cli args := by
  fun_induction parseLoop cli args with
  | case1 cli => rfl
  | case2 cli arg rest flagged induction =>
      rw [parseFromLoop, flagged]
      exact induction no_help no_unknown
  | case3 cli arg rest flagged => exact absurd rfl no_help
  | case4 cli arg rest flagged => exact absurd rfl (no_unknown arg)
  | case5 cli arg flag no_daemon not_help flagged =>
      cases flag with
      | daemon => exact (no_daemon rfl).elim
      | help => exact (not_help rfl).elim
      | pidFile | logFile | config => rw [parseFromLoop, flagged]
  | case6 cli arg flag no_daemon not_help flagged value rest induction =>
      rw [← induction no_help no_unknown]
      cases flag with
      | daemon => exact (no_daemon rfl).elim
      | help => exact (not_help rfl).elim
      | pidFile | logFile | config => rw [parseFromLoop, flagged]

end Reading

/-- The outcome of reading the command line is the one for the options that it spells, up to the
first word that begins no option. -/
theorem parseArgs_iff (args : List Text) (outcome : Except CliEnd CliArgs) :
    parseArgs args = outcome ↔
      ∃ options words rest, args.tail = words ++ rest ∧ Spells words options ∧
        EndsAt (options.foldl CliArgs.apply .default) rest outcome := by
  constructor
  · rintro rfl
    exact exists_spelled .default args.tail
  · rintro ⟨options, words, rest, same, spelled, ended⟩
    rw [parseArgs, same, parseLoop_append spelled, parseLoop_of_endsAt ended]

/-- What is not rejected for a word or answered with the help is read alike in the tests. -/
theorem parseArgsFrom_agrees (args : List Text) (no_help : parseArgs args ≠ .error .help)
    (no_unknown : ∀ word, parseArgs args ≠ .error (.unknown word)) :
    parseArgsFrom args = parseArgs args :=
  parseFromLoop_agrees no_help no_unknown

end AimailBridge

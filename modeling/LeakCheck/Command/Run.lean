import LeakCheck.Command.Help
import LeakCheck.Command.Report
import LeakCheck.Config.Load

/-!
# The command

The command reads its flags, the environment and the configuration, analyses the packages and prints
the leaks. It ends with status 3 if there are any, and with status 1 if anything went wrong.
-/

namespace LeakCheck.Command

open Log (Logger Sinks)

/-- What the command sees. -/
structure Invocation where
  /-- The arguments. -/
  args : List String
  /-- The environment. -/
  environment : List (String × String) := []
  /-- The files. -/
  workspace : Storage.Workspace := {}
  /-- What loading the packages comes to. -/
  loading : Batch.Loading
  /-- The number of processors. -/
  processors : Nat := 1

/-- What the command does. -/
structure Outcome where
  /-- The status it ends with. -/
  status : Nat
  /-- What it prints after the log. -/
  printed : String := ""
  /-- What went wrong. -/
  error : Option String := none
  /-- What was logged and written. -/
  sinks : Sinks := {}

/-! ## Settings -/

/-- The value of an environment variable; an empty one is not set. -/
def valueOf? (environment : List (String × String)) (name : String) : Option String :=
  (environment.lookup name).filter (· ≠ "")

/-- The value of a flag: as given, else from the environment. -/
def setting? (g : Given) (environment : List (String × String)) (f : Flag) : Option FlagValue :=
  match g.get? f with
  | some v => some v
  | none => (f.environmentName?.bind (valueOf? environment)).map .text

/-- The text of a setting, which is empty by default. -/
def textSetting (g : Given) (environment : List (String × String)) (f : Flag) : String :=
  match setting? g environment f with
  | some (.text s) => s
  | _ => ""

/-- A numeral without zeros after a point at its end. -/
def dropZeroFraction (cs : List Char) : List Char :=
  let zeros := cs.reverse.takeWhile (· = '0')
  match cs.reverse.dropWhile (· = '0') with
  | '.' :: rest => if zeros.isEmpty then cs else rest.reverse
  | _ => cs

/-- The number of a setting. From the environment, what is not a number is zero. -/
def numberSetting (g : Given) (environment : List (String × String)) (f : Flag) : Int :=
  match setting? g environment f with
  | some (.integer n) => n
  | some (.text s) => (Text.readInteger (dropZeroFraction s.toList)).toOption.getD 0
  | _ => 0

/-! ## Running -/

/-- Why the command did not analyse anything. -/
inductive RunError where
  /-- The arguments are refused. -/
  | flags (e : FlagError)
  /-- There are no arguments. -/
  | noArguments
  /-- There is no configuration. -/
  | config (e : Config.LoadError)
  /-- The logger cannot be set up. -/
  | logger (e : Log.SetupError)
  /-- There is no program. -/
  | load (e : Batch.LoadError)

/-- The wording of the failure. -/
def RunError.message : RunError → String
  | .flags e => e.message
  | .noArguments => "requires at least 1 arg(s), only received 0"
  | .config e => e.report
  | .logger e => e.message
  | .load e => e.message

/-- What the command does when it cannot go on. -/
def Outcome.failure (e : RunError) (sinks : Sinks) : Outcome :=
  { status := 1, error := some e.message, sinks }

/-- The configuration at a path, or the default one if the path is empty. -/
def loadConfig (w : Storage.Workspace) (path : String) : Except Config.LoadError Config :=
  if path = "" then (Config.read []).mapError .refused else Config.load w path

/-- The status and the output after a batch. -/
def Outcome.ofResult (p : Ssa.Program) (r : Batch.Result) (sinks : Sinks) : Outcome :=
  let status := if r.error?.isSome then 1 else if r.leaks.isEmpty then 0 else 3
  { status, printed := reportText p r, error := r.error?, sinks }

/-- What the flags, the environment and the configuration ask for. -/
structure Plan where
  /-- The configuration; the directory of dumps is that of the flag if it names one. -/
  conf : Config
  /-- The logger; its level is that of the flag if it names one, else that of the configuration. -/
  log : Log.Settings
  /-- How many functions are analysed at once. -/
  concurrency : Int

/-- The path of the configuration; empty if there is none. -/
def configPath (g : Given) (environment : List (String × String)) : String :=
  textSetting g environment .config

/-- Makes a plan. -/
def plan (g : Given) (environment : List (String × String)) (w : Storage.Workspace) :
    Except Config.LoadError Plan :=
  (loadConfig w (configPath g environment)).map fun conf =>
    let dumps := textSetting g environment .dumps
    let level := textSetting g environment .logLevel
    { conf := if dumps = "" then conf else { conf with dumps }
      log := {
        level := if level = "" then conf.logLevel else level
        outputs := textSetting g environment .logOutput }
      concurrency := numberSetting g environment .concurrency }

/-- Analyses the packages that the arguments name. -/
def analyze (i : Invocation) (g : Given) : Outcome :=
  match plan g i.environment i.workspace with
  | .error e => .failure (.config e) { workspace := i.workspace }
  | .ok p =>
    match Logger.setup p.log i.workspace with
    | (.error e, workspace) => .failure (.logger e) { workspace }
    | (.ok logger, workspace) =>
      let options : Batch.Options := { concurrency := p.concurrency, processors := i.processors }
      match Batch.run i.loading g.args p.conf options logger { workspace } with
      | (.error e, sinks) => .failure (.load e) sinks
      | (.ok r, sinks) => .ofResult i.loading.loaded.program r sinks

/-- Runs the command. -/
def run (i : Invocation) : Outcome :=
  match Given.read i.args with
  | .error e => .failure (.flags e) { workspace := i.workspace }
  | .ok g =>
    if g.get? .help = some (.truth true) then
      { status := 0, printed := helpText, sinks := { workspace := i.workspace } }
    else if g.args.isEmpty then .failure .noArguments { workspace := i.workspace }
    else analyze i g

/-- The paths that a run looks at, as far as they are known from the files that are there. -/
def Invocation.paths (i : Invocation) : List String :=
  match Given.read i.args with
  | .error _ => []
  | .ok g =>
    configPath g i.environment ::
      match plan g i.environment i.workspace with
      | .error _ => []
      | .ok p => p.conf.dumps :: p.log.outputs.splitOn ";"

/-- The lines that the log puts on a stream. -/
def logText (records : List Log.Record) : String :=
  String.join (records.map fun r => r.console ++ "\n")

/-- All that the command puts on standard output. -/
def Outcome.stdout (o : Outcome) : String := logText o.sinks.stdout ++ o.printed

/-- All that the command puts on standard error. -/
def Outcome.stderr (o : Outcome) : String :=
  logText o.sinks.stderr ++
    match o.error with
    | some e => commandName ++ ": " ++ e ++ "\n"
    | none => ""

end LeakCheck.Command

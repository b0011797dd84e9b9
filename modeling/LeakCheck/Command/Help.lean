import LeakCheck.Command.Flag

/-!
# The help of the command
-/

namespace LeakCheck.Command

/-- The name of the command. -/
def commandName : String := "secretflow-batch"

/-- What a flag is for. -/
def Flag.usage : Flag → String
  | .concurrency => "number of functions analyzed at once (0 means GOMAXPROCS)"
  | .config => "path to analysis configuration file (defaults apply if empty)"
  | .dumps => "directory receiving a DOT graph of each analyzed function"
  | .help => "help for " ++ commandName
  | .logLevel => "log level (trace, debug, info, warn, error); logging is off if empty"
  | .logOutput =>
    "semicolon-separated log destinations: stdout, stderr or file paths (default \"stderr\")"
  | .noColor => "disable colored output"

/-- What a flag looks like. -/
def Flag.form (f : Flag) : String :=
  (if f.letter.isSome then "  " else "      ") ++ f.label ++
    match f.kind with
    | .text => " string"
    | .integer => " int"
    | .truth => ""

/-- The lines that explain the flags, with what they are for in one column. -/
def flagLines : List String :=
  let width := (Flag.all.map fun f => f.form.length).foldl max 0
  Flag.all.map fun f =>
    f.form ++ String.ofList (List.replicate (width + 3 - f.form.length) ' ') ++ f.usage

/-- The help of the command. -/
def helpText : String :=
  "Report secrets escaping the functions of Go packages\n\nUsage:\n  " ++ commandName ++
    " [packages] [flags]\n\nFlags:\n" ++ Text.join "\n" flagLines ++ "\n"

end LeakCheck.Command

import SnippetCheck.Command.Arguments

namespace SnippetCheck.Command

/-- What the program is asked to do. Input without a file comes from standard input. -/
inductive Task
  | analyze (file : Option String) (layout : Layout)
  | tokens (file : Option String) (pretty : Bool)
  | ast (file : Option String) (pretty : Bool)
  | request (file : Option String)
  | info (health : Bool)

/-- A command line that can be run. -/
structure Invocation where
  config : Option String
  task : Task

def commonOptions : List Opt :=
  [.config, .verbose, .help]

def commands : List String :=
  ["analyze", "tokens", "ast", "request", "info", "help"]

def topLevel : Level :=
  ⟨.version :: commonOptions, commands, false⟩

/-- The arguments behind each command, and the task that they make. -/
def taskNamed : String → Option (Level × (Given → Task))
  | "analyze" => some
    (⟨.format :: .failuresOnly :: .noSymbols :: commonOptions, [], true⟩, fun given =>
      .analyze given.file
        { format := ((given.value? .format).bind formatNamed).getD .text
          passingChecks := !given.has .failuresOnly
          symbols := !given.has .noSymbols })
  | "tokens" => some
    (⟨.pretty :: commonOptions, [], true⟩, fun given => .tokens given.file (given.has .pretty))
  | "ast" => some
    (⟨.pretty :: commonOptions, [], true⟩, fun given => .ast given.file (given.has .pretty))
  | "request" => some (⟨commonOptions, [], true⟩, fun given => .request given.file)
  | "info" => some
    (⟨.health :: commonOptions, [], false⟩, fun given => .info (given.has .health))
  | _ => none

/-- Help is for the whole program or for one command. -/
def helpFor : List String → Stop
  | [] => .help
  | [command] => if commands.contains command then .help else .usage
  | _ => .usage

/-- Read a command line. Options that every command has may stand before it or behind it; of two
settings files the one behind it counts. -/
def Invocation.ofArguments (arguments : List String) : Except Stop Invocation := do
  match ← Given.none.arguments topLevel arguments with
  | (_, none) => .error .usage
  | (before, some (command, rest)) =>
    match taskNamed command with
    | none => .error (helpFor rest)
    | some (level, task) =>
      let (behind, _) ← Given.none.arguments level rest
      return ⟨behind.value? .config <|> before.value? .config, task behind⟩

end SnippetCheck.Command

import SnippetCheck.Report.Layout

namespace SnippetCheck.Command

/-- The options of the command line. -/
inductive Opt
  | config
  | verbose
  | help
  | version
  | format
  | failuresOnly
  | noSymbols
  | pretty
  | health
  deriving DecidableEq

namespace Opt

def long : Opt → String
  | config => "config"
  | verbose => "verbose"
  | help => "help"
  | version => "version"
  | format => "format"
  | failuresOnly => "failures-only"
  | noSymbols => "no-symbols"
  | pretty => "pretty"
  | health => "health"

def short : Opt → Option Char
  | config => some 'c'
  | verbose => some 'v'
  | help => some 'h'
  | version => some 'V'
  | format => some 'f'
  | pretty => some 'p'
  | failuresOnly | noSymbols | health => none

def takesValue : Opt → Bool
  | config | format => true
  | _ => false

end Opt

def formatNamed : String → Option Format
  | "text" => some .text
  | "compact" => some .compact
  | "json" => some .json
  | _ => none

/-- Whether a value can be given to an option. A file needs a name, a format has to be known. -/
def Opt.allows : Opt → String → Bool
  | .config, value => !value.isEmpty
  | .format, value => (formatNamed value).isSome
  | _, _ => true

/-- What arguments may stand in one place of the command line. -/
structure Level where
  options : List Opt
  commands : List String
  takesFile : Bool

/-- Why arguments do not lead to a run. -/
inductive Stop
  | usage
  | help
  | version
  deriving DecidableEq

/-- The arguments of one level read so far. -/
structure Given where
  options : List (Opt × String)
  file : Option String

namespace Given

def none : Given :=
  ⟨[], Option.none⟩

def value? (given : Given) (option : Opt) : Option String :=
  given.options.lookup option

def has (given : Given) (option : Opt) : Bool :=
  (given.value? option).isSome

/-- Take an option. Help and version end the reading at once; no other option may come twice. -/
def take (given : Given) (option : Opt) (value : String) : Except Stop Given :=
  if option = .help then .error .help
  else if option = .version then .error .version
  else if given.has option || !option.allows value then .error .usage
  else .ok { given with options := (option, value) :: given.options }

/-- Take an argument that is no option. -/
def operand (level : Level) (given : Given) (argument : String) : Except Stop Given :=
  if level.takesFile && given.file.isNone && !argument.isEmpty then
    .ok { given with file := some argument }
  else .error .usage

/-- Take short options written together. The first that needs a value gets the rest of the
argument, or waits for the next if there is no rest. -/
def shorts (level : Level) (given : Given) : List Char → Except Stop (Given × Option Opt)
  | [] => .ok (given, Option.none)
  | letter :: rest =>
    match level.options.find? (·.short == some letter) with
    | Option.none => .error .usage
    | some option =>
      if option.takesValue then
        match rest with
        | [] => .ok (given, some option)
        | '=' :: value => return (← given.take option (String.ofList value), Option.none)
        | value => return (← given.take option (String.ofList value), Option.none)
      else do shorts level (← given.take option "") rest

/-- Take a long option, with its value behind an equals sign if there is one. -/
def long (level : Level) (given : Given) (text : List Char) : Except Stop (Given × Option Opt) :=
  let name := String.ofList (text.takeWhile (· != '='))
  match level.options.find? (·.long == name), text.dropWhile (· != '=') with
  | Option.none, _ => .error .usage
  | some option, [] =>
    if option.takesValue then .ok (given, some option)
    else return (← given.take option "", Option.none)
  | some option, _ :: value =>
    if option.takesValue then return (← given.take option (String.ofList value), Option.none)
    else .error .usage

/-- Take one argument that begins with a dash. -/
def dashed (level : Level) (given : Given) : List Char → Except Stop (Given × Option Opt)
  | '-' :: text => given.long level text
  | text => given.shorts level text

/-- Take the arguments of a level in order, until they end or a command comes, which is returned
with the arguments behind it. A lone dash is a name like any other; behind two dashes nothing is
an option or a command. -/
def arguments (level : Level) (given : Given) :
    List String → Except Stop (Given × Option (String × List String))
  | [] => .ok (given, Option.none)
  | argument :: rest =>
    match argument.toList with
    | ['-', '-'] => do
      return (← rest.foldlM (operand level) given, Option.none)
    | '-' :: letter :: text => do
      match ← given.dashed level (letter :: text) with
      | (given, Option.none) => arguments level given rest
      | (given, some option) =>
        match rest with
        | [] => .error .usage
        | value :: rest =>
          if value.toList.length ≠ 1 ∧ value.toList.head? = some '-' then .error .usage
          else do arguments level (← given.take option value) rest
    | _ =>
      if level.commands.contains argument then .ok (given, some (argument, rest))
      else do arguments level (← given.operand level argument) rest

end Given
end SnippetCheck.Command

import SnippetCheck.Command.Invocation
import SnippetCheck.Service.Analysis
import SnippetCheck.Service.Info

namespace SnippetCheck.Command

/-- Where text comes from. -/
inductive Source
  | file (name : String)
  | standardInput

/-- Why text cannot be had. -/
inductive ReadFault
  | missing
  | denied
  | directory
  | notDirectory
  | notText
  | other (cause : String)

def ReadFault.message : ReadFault → String
  | .missing => "No such file or directory (os error 2)"
  | .denied => "Permission denied (os error 13)"
  | .notDirectory => "Not a directory (os error 20)"
  | .directory => "Is a directory (os error 21)"
  | .notText => "stream did not contain valid UTF-8"
  | .other cause => cause

/-- What a run leaves behind: an exit code, what was printed, the error it ended with, and how to
call the program where the arguments made no sense. -/
structure Outcome where
  code : UInt8
  printed : String
  error : Option String
  advice : Option String := none

namespace Outcome

def printing (code : UInt8) (text : String) : Outcome :=
  { code, printed := text ++ "\n", error := none }

def failing (cause : String) : Outcome :=
  { code := 2, printed := "", error := some cause }

def advising (advice : String) : Outcome :=
  { code := 2, printed := "", error := none, advice := some advice }

end Outcome

def writeJson (pretty : Bool) (json : Json) : String :=
  if pretty then json.indented else json.compact

/-- How the program is called. -/
def usage : String :=
  let choices := "|".intercalate commands
  s!"Usage: {serviceName} [OPTIONS] <{choices}>"

section
variable {m : Type → Type} [Monad m] (read : Source → m (Except ReadFault String))

/-- The settings in a file, or the defaults without one. -/
def loadSettings : Option String → m (Except String Settings)
  | none => return .ok {}
  | some name => do
    match ← read (.file name) with
    | .error fault =>
      return .error (Rejection.settings s!"cannot read {name}: {fault.message}").message
    | .ok text => return (Settings.ofText text).mapError Rejection.message

/-- Go on with the text of a file or of standard input. -/
def withInput (file : Option String) (next : String → Outcome) : m Outcome := do
  match file with
  | some name =>
    match ← read (.file name) with
    | .error fault => return .failing s!"Error reading file '{name}': {fault.message}"
    | .ok text => return next text
  | none =>
    match ← read .standardInput with
    | .error fault => return .failing s!"Error reading from stdin: {fault.message}"
    | .ok text => return next text

/-- Carry out a task. A program that is found faulty gives exit code 1, one that cannot be
looked at gives 2. -/
def Task.run (settings : Settings) : Task → m Outcome
  | .analyze file layout =>
    withInput read file fun source =>
      match settings.analyzeAccepted source with
      | .error rejection => .failing rejection.message
      | .ok report => .printing (if report.success then 0 else 1) (layout.render report)
  | .tokens file pretty =>
    withInput read file fun source =>
      .printing 0 (writeJson pretty (TokenReport.ofTokens (tokenize source)).toJson)
  | .ast file pretty =>
    withInput read file fun source =>
      let report := TreeReport.ofTokens (tokenize source)
      .printing (if report.valid then 0 else 1) (writeJson pretty report.toJson)
  | .request file =>
    withInput read file fun body =>
      match settings.answer body with
      | .ok report => .printing 0 report.toJson.indented
      | .error rejection => .printing 1 rejection.refusal.toJson.indented
  | .info asHealth =>
    return .printing 0 (if asHealth then analyzerHealth.toJson else analyzerInfo.toJson).indented

/-- Settings come first: with faulty ones nothing is read or done. -/
def Invocation.run (invocation : Invocation) : m Outcome := do
  match ← loadSettings read invocation.config with
  | .error cause => return .failing cause
  | .ok settings => invocation.task.run read settings

/-- Run a command line. -/
def run (arguments : List String) : m Outcome :=
  match Invocation.ofArguments arguments with
  | .ok invocation => invocation.run read
  | .error .usage => return .advising usage
  | .error .help => return .printing 0 usage
  | .error .version => return .printing 0 s!"{serviceName} {version}"

end

end SnippetCheck.Command

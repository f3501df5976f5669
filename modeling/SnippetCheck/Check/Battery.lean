import SnippetCheck.Check.Collision
import SnippetCheck.Symbol.Collect

namespace SnippetCheck

/-- Run one check behind those that have been run. -/
def Check.runOn (subject : Subject) (output : Findings) : Check → Findings
  | .definedBeforeUse => subject.definedBeforeUse output
  | .usageOrder => subject.usageOrder output
  | .parameterUsage => subject.parameterUsage output
  | .callArguments => subject.callArguments output
  | .recursiveCall => subject.recursiveCall output
  | .scopeCollision => subject.scopeCollision output
  | .scopeSeparation => subject.scopeSeparation output

/-- The checks to run, in order. A check may be there more than once, or not at all. -/
abbrev Battery := List Check

/-- Run the checks one after the other over one output. -/
def Battery.run (battery : Battery) (subject : Subject) : Findings :=
  battery.foldl (Check.runOn subject) .none

/-- What a check finds when it is run alone. -/
def Check.run (subject : Subject) (check : Check) : Findings :=
  Battery.run [check] subject

/-- What the semantic stage reports. Only `valid` shows in the written form whether there are
hard errors. -/
structure CheckReport where
  verdicts : List Verdict
  symbols : List Symbol
  warnings : List String
  valid : Bool
  errors : List String
  deriving DecidableEq

/-- Record the symbols of a tree and run a battery over them and the tokens. -/
def CheckReport.of (watch : WatchList) (battery : Battery) (tokens : List Token) (tree : Node) :
    CheckReport :=
  let collected := collectSymbols tree
  let findings := battery.run ⟨tokens, collected.table, watch⟩
  { verdicts := findings.verdicts
    symbols := collected.table.current
    warnings := (collected.warnings.toList ++ findings.warnings).map Warning.message
    valid := findings.errors.isEmpty
    errors := findings.errors.map HardError.message }

end SnippetCheck

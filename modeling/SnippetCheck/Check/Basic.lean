import SnippetCheck.Diagnostic
import SnippetCheck.Symbol.Table
import SnippetCheck.Token.Neighbours

namespace SnippetCheck

/-- The names that the checks look for: a function that must be defined before it is used, a
parameter that must be read, a builtin that must get arguments, and two names that must not
share a scope. -/
structure WatchList where
  targetFunction : String := "factorial"
  trackedParameter : String := "n"
  callBuiltin : String := "print"
  scopePair : String × String := ("x", "n")
  deriving DecidableEq

/-- What one check looked at and whether it held. -/
structure Verdict where
  description : String
  passed : Bool
  line : Option UInt32
  deriving DecidableEq

/-- What the checks of a run have said so far. Every check gets what was said before it and hands
it on changed. -/
structure Findings where
  verdicts : List Verdict
  warnings : List Warning
  errors : List HardError
  deriving DecidableEq

namespace Findings

def none : Findings :=
  ⟨[], [], []⟩

def addVerdict (findings : Findings) (verdict : Verdict) : Findings :=
  { findings with verdicts := findings.verdicts ++ [verdict] }

def addWarnings (findings : Findings) (warnings : List Warning) : Findings :=
  { findings with warnings := findings.warnings ++ warnings }

def addErrors (findings : Findings) (errors : List HardError) : Findings :=
  { findings with errors := findings.errors ++ errors }

end Findings

/-- What every check may look at. The tokens are those of the whole source, trivia included. -/
structure Subject where
  tokens : List Token
  table : SymbolTable
  watch : WatchList

/-- The checks. The second gives warnings only; each of the others gives one verdict. -/
inductive Check
  | definedBeforeUse
  | usageOrder
  | parameterUsage
  | callArguments
  | recursiveCall
  | scopeCollision
  | scopeSeparation
  deriving DecidableEq

namespace Check

/-- All checks in the order in which they are reported. -/
def all : List Check :=
  [definedBeforeUse, usageOrder, parameterUsage, callArguments, recursiveCall, scopeCollision,
   scopeSeparation]

def name : Check → String
  | definedBeforeUse => "defined-before-use"
  | usageOrder => "usage-order"
  | parameterUsage => "parameter-usage"
  | callArguments => "call-arguments"
  | recursiveCall => "recursive-call"
  | scopeCollision => "scope-collision"
  | scopeSeparation => "scope-separation"

end Check

namespace Subject

/-- The lines on which the watched function is named other than in its definition. -/
def targetUses (subject : Subject) : List UInt32 :=
  (Neighbours.occurrences subject.tokens subject.watch.targetFunction).filterMap fun entry =>
    if Neighbours.followsDef subject.tokens entry.1 then none else some entry.2.line

/-- The fault in the uses of the watched function: it is used but not defined, or used on a line
that does not come after its definition. -/
def targetError (subject : Subject) : Option HardError :=
  let name := subject.watch.targetFunction
  match subject.targetUses, subject.table.lookupKind name .function with
  | [], _ => none
  | _ :: _, none => some (.undefinedFunction name)
  | uses, some symbol =>
    (uses.find? (· ≤ symbol.line)).map (.usedBeforeDefinition name · symbol.line)

def definedBeforeUse (subject : Subject) (output : Findings) : Findings :=
  let name := subject.watch.targetFunction
  let error := subject.targetError
  let output := output.addVerdict
    ⟨s!"function '{name}' is defined before use", error.isNone,
      (subject.table.lookupKind name .function).map Symbol.line⟩
  output.addErrors error.toList

/-- The identifiers that are assigned to, with their indexes. -/
def assignments (subject : Subject) : List (Nat × Token) :=
  (Neighbours.indexed subject.tokens).filter fun entry =>
    entry.2.kind == .identifier && Neighbours.isAssigned subject.tokens entry.1

/-- Names that the order of use does not concern. -/
def isExempt (subject : Subject) (name : String) : Bool :=
  isBuiltin name || (subject.table.lookup name).any fun symbol =>
    symbol.kind == .parameter || symbol.kind == .function

/-- The warning for one token: a variable that is read although its first assignment comes
later. -/
def usageWarning (subject : Subject) (assignments : List (Nat × Token)) (index : Nat)
    (token : Token) : Option Warning :=
  if token.kind == .identifier && !Neighbours.isAssigned subject.tokens index
      && !subject.isExempt token.text then
    match assignments.find? (·.2.text == token.text) with
    | some (assigned, target) =>
      if index < assigned then some (.usedBeforeAssignment token.text token.line target.line)
      else none
    | none => none
  else none

/-- The warnings are given one after the other, on the way through the tokens. -/
def usageOrder (subject : Subject) (output : Findings) : Findings :=
  let assignments := subject.assignments
  (Neighbours.indexed subject.tokens).foldl (fun output entry =>
    output.addWarnings (subject.usageWarning assignments entry.1 entry.2).toList) output

def parameterUsage (subject : Subject) (output : Findings) : Findings :=
  let name := subject.watch.trackedParameter
  let declared := subject.table.lookupKind name .parameter
  let declarations := Neighbours.parameterIndexes subject.tokens
  let used := (Neighbours.occurrences subject.tokens name).any fun entry =>
    !declarations.contains entry.1
  output.addVerdict
    ⟨s!"parameter '{name}' is used correctly", declared.isNone || used, declared.map Symbol.line⟩

/-- The calls of the watched builtin, each with its line and whether it has arguments. -/
def builtinCalls (subject : Subject) : List (UInt32 × Bool) :=
  (Neighbours.indexed subject.tokens).filterMap fun entry =>
    if (entry.2.kind == .identifier || entry.2.kind == .keyword)
        && entry.2.text == subject.watch.callBuiltin
        && Neighbours.opensCall subject.tokens entry.1 then
      (Neighbours.nextIndex subject.tokens entry.1).map fun opening =>
        (entry.2.line, (Neighbours.next subject.tokens opening).any (!·.isSymbol ")"))
    else none

def callArguments (subject : Subject) (output : Findings) : Findings :=
  let calls := subject.builtinCalls
  let firstEmpty := (calls.find? (!·.2)).map Prod.fst
  output.addVerdict
    ⟨s!"'{subject.watch.callBuiltin}' receives arguments", !calls.isEmpty && firstEmpty.isNone,
      firstEmpty⟩

def recursiveCall (subject : Subject) (output : Findings) : Findings :=
  let name := subject.watch.targetFunction
  let call := (Neighbours.occurrences subject.tokens name).find? fun entry =>
    !Neighbours.followsDef subject.tokens entry.1 && Neighbours.opensCall subject.tokens entry.1
  output.addVerdict
    ⟨s!"recursive call to '{name}' detected", call.isSome, call.map (·.2.line)⟩

end Subject
end SnippetCheck

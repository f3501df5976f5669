import SnippetCheck.Json.Write
import SnippetCheck.Text.Render
import SnippetCheck.Wire.Report

namespace SnippetCheck

/-- The forms in which a report can be shown: for people, as data, or one line per finding. -/
inductive Format
  | text
  | json
  | compact
  deriving DecidableEq

/-- How to show a report. Passing checks and symbols concern only the text form, indentation
only the data form. -/
structure Layout where
  format : Format
  passingChecks : Bool := true
  symbols : Bool := true
  indented : Bool := true

namespace Layout

def lines (texts : List String) : String :=
  String.join (texts.map (· ++ "\n"))

def validity (valid : Bool) : String :=
  if valid then "valid" else "invalid"

def countList (counts : KindCounts) : String :=
  ", ".intercalate (counts.toList.map fun entry => s!"{entry.1.name} {entry.2.toNat}")

def verdictLine (verdict : Verdict) : String :=
  let label := if verdict.passed then "pass" else "fail"
  let place := match verdict.line with
    | none => ""
    | some line => s!" (line {line.toNat})"
  s!"  [{label}] {verdict.description}{place}"

/-- Names, kinds and scopes stand in columns. One that is too long pushes the rest aside. -/
def symbolLine (symbol : Symbol) : String :=
  let column (width : Nat) : Text.Field := { width }
  let name := (column 16).render symbol.name
  let kind := symbol.kind.inColumn (column 10)
  let scope := (column 24).render symbol.scope
  s!"  {name} {kind} {scope} line {symbol.line.toNat}"

def text (layout : Layout) (report : Report) : String :=
  let semantic := report.semantic
  lines
    ([s!"lexical: {report.lexical.tokens.length} tokens ({countList report.lexical.counts})",
      s!"syntax: {validity report.syntactic.valid}"] ++
     report.syntactic.errors.map (s!"  error: {·}") ++
     [s!"semantic: {validity semantic.valid}"] ++
     (semantic.verdicts.filter fun verdict => layout.passingChecks || !verdict.passed).map
       verdictLine ++
     semantic.warnings.map (s!"  warning: {·}") ++
     semantic.errors.map (s!"  error: {·}") ++
     (if layout.symbols && !semantic.symbols.isEmpty then
        "symbols:" :: semantic.symbols.map symbolLine
      else [])) ++
  report.message

/-- Every finding in one line, what is in order left out, and the message last. -/
def compactLines (report : Report) : List String :=
  report.syntactic.errors.map (s!"error[syntax]: {·}") ++
  (report.semantic.verdicts.filter (!·.passed)).map (s!"fail[check]: {·.description}") ++
  report.semantic.warnings.map (s!"warning[semantic]: {·}") ++
  report.semantic.errors.map (s!"error[semantic]: {·}") ++
  [report.message]

def render (layout : Layout) (report : Report) : String :=
  match layout.format with
  | .text => layout.text report
  | .json => if layout.indented then report.toJson.indented else report.toJson.compact
  | .compact => "\n".intercalate (compactLines report)

end Layout
end SnippetCheck

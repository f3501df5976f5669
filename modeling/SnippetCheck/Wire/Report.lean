import SnippetCheck.Check.Battery
import SnippetCheck.Json.Record
import SnippetCheck.Json.Write
import SnippetCheck.Report.Basic
import SnippetCheck.Wire.Token
import SnippetCheck.Wire.Tree

namespace SnippetCheck

open Json (Reader Shape)

namespace SymbolKind

def named : List (String × SymbolKind) :=
  all.map fun kind => (kind.name, kind)

def toJson (kind : SymbolKind) : Json :=
  .string kind.name

def reader (levels : Nat) : Reader SymbolKind :=
  Reader.variant named levels

end SymbolKind

namespace Symbol

def toJson (symbol : Symbol) : Json :=
  .object
    [("name", .string symbol.name), ("type", symbol.kind.toJson),
     ("scope", .string symbol.scope), ("line", .number symbol.line.toNat)]

def shape (levels : Nat) : Shape Symbol where
  name := "Symbol"
  blank := ⟨"", .function, "", 0⟩
  fields :=
    [⟨"name", false, do let name ← Reader.string; return ({ · with name })⟩,
     ⟨"type", false, do let kind ← SymbolKind.reader levels; return ({ · with kind })⟩,
     ⟨"scope", false, do let scope ← Reader.string; return ({ · with scope })⟩,
     ⟨"line", false, do let line ← Reader.word32; return ({ · with line })⟩]

def reader (levels : Nat) : Reader Symbol :=
  (shape (levels - 1)).reader levels

end Symbol

namespace Verdict

/-- A verdict that concerns no line has none. -/
def toJson (verdict : Verdict) : Json :=
  .object
    ([("description", .string verdict.description), ("passed", .bool verdict.passed)] ++
      match verdict.line with
      | none => []
      | some line => [("line", .number line.toNat)])

def shape : Shape Verdict where
  name := "CheckRecord"
  blank := ⟨"", false, none⟩
  fields :=
    [⟨"description", false, do
        let description ← Reader.string; return ({ · with description })⟩,
     ⟨"passed", false, do let passed ← Reader.bool; return ({ · with passed })⟩,
     ⟨"line", true, do let line ← Reader.nullable Reader.word32; return ({ · with line })⟩]

def reader (levels : Nat) : Reader Verdict :=
  shape.reader levels

end Verdict

namespace CheckReport

/-- The hard errors are not written. -/
def toJson (report : CheckReport) : Json :=
  .object
    [("checks", .array (report.verdicts.map Verdict.toJson)),
     ("symbolTable", .array (report.symbols.map Symbol.toJson)),
     ("warnings", .strings report.warnings), ("valid", .bool report.valid)]

def shape (levels : Nat) : Shape CheckReport where
  name := "SemanticReport"
  blank := ⟨[], [], [], false, []⟩
  fields :=
    [⟨"checks", false, do
        let verdicts ← Reader.list Verdict.reader levels; return ({ · with verdicts })⟩,
     ⟨"symbolTable", false, do
        let symbols ← Reader.list Symbol.reader levels; return ({ · with symbols })⟩,
     ⟨"warnings", false, do
        let warnings ← Reader.list (fun _ => Reader.string) levels
        return ({ · with warnings })⟩,
     ⟨"valid", false, do let valid ← Reader.bool; return ({ · with valid })⟩]

def reader (levels : Nat) : Reader CheckReport :=
  (shape (levels - 1)).reader levels

end CheckReport

namespace Report

def toJson (report : Report) : Json :=
  .object
    [("lexical", report.lexical.toJson), ("syntax", report.syntactic.toJson),
     ("semantic", report.semantic.toJson), ("success", .bool report.success),
     ("message", .string report.message)]

def shape (levels : Nat) : Shape Report where
  name := "AnalysisReport"
  blank := ⟨⟨[], .empty⟩, ⟨false, [], .program []⟩, ⟨[], [], [], false, []⟩, false, ""⟩
  fields :=
    [⟨"lexical", false, do
        let lexical ← TokenReport.reader levels; return ({ · with lexical })⟩,
     ⟨"syntax", false, do
        let syntactic ← TreeReport.reader levels; return ({ · with syntactic })⟩,
     ⟨"semantic", false, do
        let semantic ← CheckReport.reader levels; return ({ · with semantic })⟩,
     ⟨"success", false, do let success ← Reader.bool; return ({ · with success })⟩,
     ⟨"message", false, do let message ← Reader.string; return ({ · with message })⟩]

def reader (levels : Nat) : Reader Report :=
  (shape (levels - 1)).reader levels

end Report
end SnippetCheck

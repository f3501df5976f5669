import SnippetCheck.Json.Record
import SnippetCheck.Json.Write
import SnippetCheck.Token.Describe

namespace SnippetCheck

open Json (Reader Shape)

namespace TokenKind

def named : List (String × TokenKind) :=
  all.map fun kind => (kind.name, kind)

def toJson (kind : TokenKind) : Json :=
  .string kind.name

def reader (levels : Nat) : Reader TokenKind :=
  Reader.variant named levels

end TokenKind

namespace Token

def toJson (token : Token) : Json :=
  .object
    [("type", token.kind.toJson), ("value", .string token.text),
     ("line", .number token.line.toNat), ("col", .number token.column.toNat)]

def shape (levels : Nat) : Shape Token where
  name := "Token"
  blank := ⟨.error, "", 0, 0⟩
  fields :=
    [⟨"type", false, do let kind ← TokenKind.reader levels; return ({ · with kind })⟩,
     ⟨"value", false, do let text ← Reader.string; return ({ · with text })⟩,
     ⟨"line", false, do let line ← Reader.word32; return ({ · with line })⟩,
     ⟨"col", false, do let column ← Reader.word32; return ({ · with column })⟩]

def reader (levels : Nat) : Reader Token :=
  (shape (levels - 1)).reader levels

end Token

namespace KindCounts

def toJson (counts : KindCounts) : Json :=
  .object (counts.toList.map fun entry => (entry.1.name, .number entry.2.toNat))

/-- One member of an object of counts. A kind that comes again takes the later count. -/
def member (counts : KindCounts) : Reader KindCounts := do
  let kind ← Reader.variantName TokenKind.named
  Reader.colon
  let count ← Reader.word64
  return counts.insert kind count

def reader (levels : Nat) : Reader KindCounts := do
  let c ← Reader.peekValue
  if c = '\x7b' then
    let counts ← Reader.members levels member .empty
    Reader.closeObject
    return counts
  else Reader.wrongType "a map" c

end KindCounts

namespace TokenReport

def toJson (report : TokenReport) : Json :=
  .object [("tokens", .array (report.tokens.map Token.toJson)), ("stats", report.counts.toJson)]

def shape (levels : Nat) : Shape TokenReport where
  name := "LexicalReport"
  blank := ⟨[], .empty⟩
  fields :=
    [⟨"tokens", false, do
        let tokens ← Reader.list Token.reader levels; return ({ · with tokens })⟩,
     ⟨"stats", false, do let counts ← KindCounts.reader levels; return ({ · with counts })⟩]

def reader (levels : Nat) : Reader TokenReport :=
  (shape (levels - 1)).reader levels

end TokenReport
end SnippetCheck

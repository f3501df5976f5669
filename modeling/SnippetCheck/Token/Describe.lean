import SnippetCheck.Text.Render
import SnippetCheck.Token.Basic

namespace SnippetCheck

/-- The kind of a token stands in a column as it is, neither cut nor widened. -/
def TokenKind.inColumn (_ : Text.Field) (kind : TokenKind) : String :=
  kind.name

/-- A token on one line: its kind, its text in quotes and its position. -/
def Token.describe (token : Token) : String :=
  s!"{token.kind.name}({Text.quoted token.text}) at {token.line.toNat}:{token.column.toNat}"

/-- How many tokens of each kind there are. A kind may be left out, which is not the same as a
count of zero: reports list only the kinds that are there. -/
@[ext]
structure KindCounts where
  get? : TokenKind → Option UInt64

namespace KindCounts

def empty : KindCounts :=
  ⟨fun _ => none⟩

def insert (counts : KindCounts) (kind : TokenKind) (count : UInt64) : KindCounts :=
  ⟨fun other => if other = kind then some count else counts.get? other⟩

/-- The number of tokens of each kind that occurs. -/
def ofTokens (tokens : List Token) : KindCounts :=
  ⟨fun kind =>
    let count := tokens.countP (·.kind = kind)
    if count = 0 then none else some count.toUInt64⟩

/-- The count of a kind, zero if it is left out. -/
def count (counts : KindCounts) (kind : TokenKind) : UInt64 :=
  (counts.get? kind).getD 0

/-- The kinds that are there with their counts, in report order. -/
def toList (counts : KindCounts) : List (TokenKind × UInt64) :=
  TokenKind.all.filterMap fun kind => (counts.get? kind).map (kind, ·)

end KindCounts

/-- What the lexical stage reports. -/
structure TokenReport where
  tokens : List Token
  counts : KindCounts

def TokenReport.ofTokens (tokens : List Token) : TokenReport :=
  ⟨tokens, .ofTokens tokens⟩

end SnippetCheck

import Mathlib.Data.List.Forall2
import SnippetCheck.Proofs.Language.Acceptance
import SnippetCheck.Proofs.Tree.ReadingOrder

namespace SnippetCheck.Grammar

/-- Of the tokens that a reading has taken, those that are kept in its trees, one for each node
and in their order. A reading without faults keeps all that can be kept. -/
structure Keeps (taken : List Token) (trees : List Node) (faults : List Diagnostic)
    (kept : List Token) : Prop where
  sublist : kept.Sublist taken
  carries : List.Forall₂ Token.Carries kept (Node.readingOrderOfAll trees)
  count : Node.countAll trees = kept.length
  all : faults = [] → kept = taken.filter Token.isCarrier

section Keeps

variable {taken taken' kept kept' : List Token} {trees trees' : List Node}
  {faults faults' : List Diagnostic}

theorem Keeps.nothing : Keeps [] [] [] [] :=
  ⟨.slnil, .nil, rfl, fun _ => rfl⟩

/-- Parts that keep their tokens one behind the other keep them together. -/
theorem Keeps.append (first : Keeps taken trees faults kept)
    (second : Keeps taken' trees' faults' kept') :
    Keeps (taken ++ taken') (trees ++ trees') (faults ++ faults') (kept ++ kept') where
  sublist := first.sublist.append second.sublist
  carries := by
    rw [Node.readingOrderOfAll_append]
    exact List.rel_append first.carries second.carries
  count := by rw [Node.countAll_append, first.count, second.count, List.length_append]
  all silent := by
    obtain ⟨silent, silent'⟩ := List.append_eq_nil_iff.mp silent
    rw [List.filter_append, ← first.all silent, ← second.all silent']

/-- A token that can make no node is left out. -/
theorem Keeps.idle {token : Token} (idle : token.isCarrier = false) : Keeps [token] [] [] [] :=
  ⟨List.nil_sublist _, .nil, rfl, fun _ => by simp [idle]⟩

/-- What a failed reading has taken may be lost. -/
theorem Keeps.lost (loud : faults ≠ []) : Keeps taken [] faults [] :=
  ⟨List.nil_sublist _, .nil, rfl, fun silent => absurd silent loud⟩

/-- A token that makes the node above all that comes behind it. -/
theorem Keeps.above {token : Token} {kind : NodeKind} {value : String} {line : UInt32}
    (below : Keeps taken trees faults kept) (noRoot : kind ≠ .program)
    (prefixed : kind ≠ .binaryOp) (carries : token.Carries (.mk kind value line trees))
    (carrier : token.isCarrier = true) :
    Keeps (token :: taken) [.mk kind value line trees] faults (token :: kept) where
  sublist := below.sublist.cons_cons token
  carries := by
    rw [Node.readingOrderOfAll, Node.readingOrder_before_children noRoot prefixed,
      Node.readingOrderOfAll, List.append_nil]
    exact .cons carries below.carries
  count := by simp [Node.countAll, Node.count, below.count]
  all silent := by rw [List.filter_cons_of_pos carrier, ← below.all silent]

/-- A sign that makes the node above what stands on its two sides. -/
theorem Keeps.between {sign : Token} {left right : Node} (first : Keeps taken [left] faults kept)
    (second : Keeps taken' [right] faults' kept') (kind : sign.kind = .operator)
    (text : sign.text ≠ "=") :
    Keeps (taken ++ sign :: taken') [.binary sign.text sign.line left right] (faults ++ faults')
      (kept ++ sign :: kept') where
  sublist := first.sublist.append (second.sublist.cons_cons sign)
  carries := by
    have left := first.carries
    have right := second.carries
    simp only [Node.readingOrderOfAll, List.append_nil] at left right ⊢
    rw [Node.readingOrder_binary]
    exact List.rel_append left (.cons ⟨rfl, kind, rfl⟩ right)
  count := by
    have left := first.count
    have right := second.count
    simp only [Node.countAll, Node.binary, Node.count, List.length_append, List.length_cons]
      at left right ⊢
    omega
  all silent := by
    obtain ⟨silent, silent'⟩ := List.append_eq_nil_iff.mp silent
    rw [List.filter_append, List.filter_cons_of_pos (Token.isCarrier_of_sign kind text),
      ← first.all silent, ← second.all silent']

end Keeps

/-- A reading that stops at `rest` accounts for its trees by tokens that it has taken. -/
def Accounts (tokens : List Token) (trees : List Node) (rest : List Token)
    (faults : List Diagnostic) : Prop :=
  ∃ taken kept, tokens = taken ++ rest ∧ Keeps taken trees faults kept

section Accounts

variable {tokens middle rest : List Token} {trees trees' : List Node}
  {faults faults' : List Diagnostic} {token : Token}

theorem Accounts.nothing : Accounts tokens [] tokens [] :=
  ⟨[], [], rfl, .nothing⟩

/-- What is given up leaves a fault to account for it. -/
theorem Accounts.lost (suffix : rest <:+ tokens) (loud : faults ≠ []) :
    Accounts tokens [] rest faults := by
  obtain ⟨taken, rfl⟩ := suffix
  exact ⟨taken, [], rfl, .lost loud⟩

theorem Accounts.append (first : Accounts tokens trees middle faults)
    (second : Accounts middle trees' rest faults') :
    Accounts tokens (trees ++ trees') rest (faults ++ faults') := by
  obtain ⟨taken, kept, rfl, keeps⟩ := first
  obtain ⟨taken', kept', rfl, keeps'⟩ := second
  exact ⟨taken ++ taken', kept ++ kept', by rw [List.append_assoc], keeps.append keeps'⟩

theorem Accounts.behind (idle : token.isCarrier = false)
    (accounts : Accounts tokens trees rest faults) :
    Accounts (token :: tokens) trees rest faults := by
  obtain ⟨taken, kept, rfl, keeps⟩ := accounts
  exact ⟨token :: taken, kept, rfl, (Keeps.idle idle).append keeps⟩

theorem Accounts.before (accounts : Accounts tokens trees (token :: rest) faults)
    (idle : token.isCarrier = false) : Accounts tokens trees rest faults := by
  obtain ⟨taken, kept, rfl, keeps⟩ := accounts
  refine ⟨taken ++ [token], kept, by simp, ?_⟩
  simpa using keeps.append (Keeps.idle idle)

/-- A node accounts for the token it is made from, before those of its children. -/
theorem Accounts.above {kind : NodeKind} {value : String} {line : UInt32}
    (below : Accounts tokens trees rest faults) (noRoot : kind ≠ .program)
    (prefixed : kind ≠ .binaryOp) (carries : token.Carries (.mk kind value line trees))
    (carrier : token.isCarrier = true) :
    Accounts (token :: tokens) [.mk kind value line trees] rest faults := by
  obtain ⟨taken, kept, rfl, keeps⟩ := below
  exact ⟨token :: taken, token :: kept, rfl, keeps.above noRoot prefixed carries carrier⟩

/-- An operation accounts for its sign between the tokens of its operands. -/
theorem Accounts.between {sign : Token} {left right : Node}
    (first : Accounts tokens [left] (sign :: middle) faults)
    (second : Accounts middle [right] rest faults') (kind : sign.kind = .operator)
    (text : sign.text ≠ "=") :
    Accounts tokens [.binary sign.text sign.line left right] rest (faults ++ faults') := by
  obtain ⟨taken, kept, rfl, keeps⟩ := first
  obtain ⟨taken', kept', rfl, keeps'⟩ := second
  exact ⟨taken ++ sign :: taken', kept ++ sign :: kept', by simp,
    keeps.between keeps' kind text⟩

end Accounts

theorem Level.sign_ne_equals {level : Level} {text : String} (sign : text ∈ level.signs) :
    text ≠ "=" := by
  rintro rfl
  cases level <;> simp [Level.signs] at sign

theorem comparisonSign_ne_equals {text : String} (sign : text ∈ comparisonSigns) :
    text ≠ "=" := by
  rintro rfl
  simp [comparisonSigns] at sign

/-- Whatever phrase is read, its trees come from the tokens it takes, in their order. -/
theorem Reads.accounts {free : Nat} {phrase : Phrase} {tokens rest : List Token}
    {trees : List Node} {faults : List Diagnostic}
    (reads : Reads free phrase tokens trees rest faults) : Accounts tokens trees rest faults := by
  have ofSymbol {token : Token} {mark : String} (isMark : token.isSymbol mark = true) :
      token.isCarrier = false := Token.not_isCarrier_of_symbol isMark
  have ofName {token : Token} (kind : token.kind = .identifier) : token.isCarrier = true :=
    Token.isCarrier_of_kind (by simp [kind]) (by simp [kind]) (by simp [kind])
  induction reads with
  | number kind =>
    exact Accounts.nothing.above nofun nofun ⟨rfl, kind, rfl⟩
      (Token.isCarrier_of_kind (by simp [kind]) (by simp [kind]) (by simp [kind]))
  | string kind =>
    exact Accounts.nothing.above nofun nofun ⟨rfl, kind, rfl⟩
      (Token.isCarrier_of_kind (by simp [kind]) (by simp [kind]) (by simp [kind]))
  | name kind => exact Accounts.nothing.above nofun nofun ⟨rfl, kind, rfl⟩ (ofName kind)
  | call callable opens _ closes ih =>
    refine ((ih.before (ofSymbol closes)).behind (ofSymbol opens)).above nofun nofun
      ⟨rfl, callable, rfl⟩ ?_
    rcases callable with kind | print
    · exact ofName kind
    · exact Token.isCarrier_of_keyword print (by decide) (by decide)
  | parenthesized opens _ closes ih => exact (ih.before (ofSymbol closes)).behind (ofSymbol opens)
  | operand _ ih => exact ih
  | operation _ kind sign _ _ ih ih' => exact ih.between ih' kind (Level.sign_ne_equals sign)
  | arithmetic _ ih => exact ih
  | comparison _ kind sign _ ih ih' => exact ih.between ih' kind (comparisonSign_ne_equals sign)
  | parameter kind => exact Accounts.nothing.above nofun nofun ⟨rfl, kind, rfl⟩ (ofName kind)
  | missingParameter loud => exact .lost List.suffix_rfl loud
  | noItems => exact .nothing
  | items _ _ ih ih' => exact ih.append ih'
  | noMore => exact .nothing
  | more comma _ _ ih ih' => exact (ih.append ih').behind (ofSymbol comma)
  | definition isDef name opens _ closes isColon _ ih ih' =>
    have signature := (ih.before (ofSymbol closes)).before (ofSymbol isColon)
    refine Accounts.behind (Token.not_isCarrier_of_def isDef) ?_
    exact ((signature.append ih').behind (ofSymbol opens)).above nofun nofun
      ⟨rfl, name, rfl⟩ (ofName name)
  | conditional isIf _ isColon _ _ ih ih' =>
    have whole := (ih.before (ofSymbol isColon)).append ih'
    exact whole.above nofun nofun ⟨rfl, isIf, rfl⟩
      (Token.isCarrier_of_keyword isIf (by decide) (by decide))
  | alternative isIf _ isColon _ isElse isColon' _ ih ih' ih'' =>
    have thenBody := (ih'.before (Token.not_isCarrier_of_else isElse)).before (ofSymbol isColon')
    have whole := ((ih.before (ofSymbol isColon)).append thenBody).append ih''
    rw [List.append_assoc] at whole
    exact whole.above nofun nofun ⟨rfl, isIf, rfl⟩
      (Token.isCarrier_of_keyword isIf (by decide) (by decide))
  | bareReturn isReturn =>
    exact Accounts.nothing.above nofun nofun ⟨rfl, isReturn, rfl⟩
      (Token.isCarrier_of_keyword isReturn (by decide) (by decide))
  | returnValue isReturn _ _ ih =>
    exact ih.above nofun nofun ⟨rfl, isReturn, rfl⟩
      (Token.isCarrier_of_keyword isReturn (by decide) (by decide))
  | assignment name sign _ ih =>
    exact (ih.behind (Token.not_isCarrier_of_equals sign)).above nofun nofun
      ⟨rfl, name, rfl⟩ (ofName name)
  | expression _ ih => exact ih
  | bodyEnd => exact .nothing
  | brokenBody suffix loud => exact .lost suffix loud
  | bodyStatement _ _ _ ih ih' => exact ih.append ih'

/-- Of all tokens of a program, those that are kept become its nodes in order. -/
theorem ReadsProgram.keeps {free : Nat} {tokens : List Token} {trees : List Node}
    {faults : List Diagnostic} (reads : ReadsProgram free tokens trees faults) :
    ∃ kept, Keeps tokens trees faults kept := by
  induction reads with
  | done => exact ⟨[], .nothing⟩
  | statement first _ ih =>
    obtain ⟨taken, kept, rfl, keeps⟩ := first.accounts
    obtain ⟨kept', keeps'⟩ := ih
    exact ⟨kept ++ kept', keeps.append keeps'⟩
  | @failure token tokens rest before others after suffix loud _ ih =>
    obtain ⟨taken, rfl⟩ := suffix
    obtain ⟨kept, keeps⟩ := ih
    have lost : Keeps (token :: taken) [] before [] := .lost loud
    exact ⟨kept, lost.append keeps⟩

/-- The nodes of a tree below its root, in the order of the text, come from tokens that stand in
the same order. Only a program with faults loses tokens that could have made a node. -/
theorem readingOrder_carried (tokens : List Token) :
    ∃ kept, kept.Sublist (significantTokens tokens) ∧
      List.Forall₂ Token.Carries kept (TreeReport.ofTokens tokens).tree.readingOrder ∧
      ((TreeReport.ofTokens tokens).valid = true →
        kept = (significantTokens tokens).filter Token.isCarrier) ∧
      (TreeReport.ofTokens tokens).tree.count ≤ (significantTokens tokens).length + 1 := by
  obtain ⟨kept, keeps⟩ := (statements_reads (lastLine (significantTokens tokens))
    maxNestingDepth (significantTokens tokens)).keeps
  refine ⟨kept, keeps.sublist, ?_, ?_, ?_⟩
  · rw [tree_eq_descend, Node.readingOrder_program]
    exact keeps.carries
  · rw [valid_iff]
    exact fun valid => keeps.all valid.2
  · have bound := keeps.sublist.length_le
    have count := keeps.count
    rw [tree_eq_descend, Node.program, Node.count, descend, count]
    omega

end SnippetCheck.Grammar

import SnippetCheck.Proofs.Language.Acceptance
import SnippetCheck.Proofs.Tree.Shape

namespace SnippetCheck

namespace Node

/-- Whether a node of this kind and value compares its children. -/
def isComparison (kind : NodeKind) (value : String) : Bool :=
  kind == .binaryOp && Grammar.comparisonSigns.contains value

mutual
/-- The greatest number of comparisons on one way down through a tree. -/
def comparisonDepth : Node → Nat
  | mk kind value _ children => comparisonDepthOfAll children + (isComparison kind value).toNat

def comparisonDepthOfAll : List Node → Nat
  | [] => 0
  | node :: rest => max node.comparisonDepth (comparisonDepthOfAll rest)
end

theorem heightOfAll_append (a b : List Node) :
    heightOfAll (a ++ b) = max (heightOfAll a) (heightOfAll b) := by
  induction a with
  | nil => simp [heightOfAll]
  | cons node rest ih => rw [List.cons_append, heightOfAll, heightOfAll, ih, Nat.max_assoc]

theorem comparisonDepthOfAll_append (a b : List Node) :
    comparisonDepthOfAll (a ++ b) = max (comparisonDepthOfAll a) (comparisonDepthOfAll b) := by
  induction a with
  | nil => simp [comparisonDepthOfAll]
  | cons node rest ih =>
    rw [List.cons_append, comparisonDepthOfAll, comparisonDepthOfAll, ih, Nat.max_assoc]

/-- Trees of so many levels at most, not counting one for each comparison on a way down, and with
so many comparisons there at most. -/
structure Within (levels comparisons : Nat) (trees : List Node) : Prop where
  height : heightOfAll trees ≤ levels + comparisonDepthOfAll trees
  comparisons : comparisonDepthOfAll trees ≤ comparisons

namespace Within

variable {levels levels' comparisons comparisons' : Nat} {trees trees' : List Node}
  {kind : NodeKind} {value : String} {line : UInt32}

theorem nil : Within levels comparisons [] :=
  ⟨Nat.zero_le _, Nat.zero_le _⟩

theorem mono (within : Within levels comparisons trees) (more : levels ≤ levels')
    (more' : comparisons ≤ comparisons') : Within levels' comparisons' trees :=
  ⟨Nat.le_trans within.height (Nat.add_le_add_right more _),
    Nat.le_trans within.comparisons more'⟩

/-- Trees side by side fit where each of them fits. -/
theorem append (first : Within levels comparisons trees)
    (others : Within levels comparisons trees') : Within levels comparisons (trees ++ trees') := by
  have height := first.height
  have height' := others.height
  refine ⟨?_, ?_⟩
  · rw [heightOfAll_append, comparisonDepthOfAll_append]
    omega
  · rw [comparisonDepthOfAll_append]
    exact Nat.max_le.mpr ⟨first.comparisons, others.comparisons⟩

/-- A node takes a level above the trees below it. -/
theorem above (below : Within levels comparisons trees)
    (noComparison : isComparison kind value = false) :
    Within (levels + 1) comparisons [.mk kind value line trees] := by
  have height := below.height
  have depth := below.comparisons
  constructor <;>
    simp only [heightOfAll, Node.height, comparisonDepthOfAll, comparisonDepth, noComparison,
      Bool.toNat_false] <;> omega

/-- A comparison takes no level of its own. -/
theorem comparison (below : Within levels comparisons trees)
    (compares : isComparison kind value = true) :
    Within levels (comparisons + 1) [.mk kind value line trees] := by
  have height := below.height
  have depth := below.comparisons
  constructor <;>
    simp only [heightOfAll, Node.height, comparisonDepthOfAll, comparisonDepth, compares,
      Bool.toNat_true] <;> omega

theorem leaf (noComparison : isComparison kind value = false) :
    Within 1 0 [.leaf kind value line] :=
  have below : Within 0 0 [] := nil
  above below noComparison

end Within
end Node

namespace Grammar

/-- The signs of a chain are no comparison signs. -/
theorem Level.not_isComparison {level : Level} {sign : String} (isSign : sign ∈ level.signs) :
    Node.isComparison .binaryOp sign = false := by
  cases level <;> simp only [Level.signs, List.mem_cons, List.not_mem_nil, or_false] at isSign
  all_goals rcases isSign with rfl | rfl | rfl
  all_goals decide

def Item.levels (free : Nat) : Item → Nat
  | parameter => 1
  | argument => free

def Item.comparisons (free : Nat) : Item → Nat
  | parameter => 0
  | argument => free

/-- How many levels a phrase can come to when `free` are left, comparisons not counted. Only a
definition whose parameters do not fit any more comes to two. -/
def Phrase.levels (free : Nat) (tokens : List Token) : Phrase → Nat
  | statement => if tokens.head?.any (·.isKeyword "def") then max free 2 else free
  | body _ => free
  | expression => free
  | chain _ => free + 1
  | factor => free + 1
  | parameter => 1
  | list item => item.levels free
  | more item => item.levels free

/-- How many comparisons can stand below each other in a phrase when `free` levels are left. -/
def Phrase.comparisons (free : Nat) : Phrase → Nat
  | statement => free - 1
  | body _ => free - 1
  | expression => free
  | chain _ => free
  | factor => free
  | parameter => 0
  | list item => item.comparisons free
  | more item => item.comparisons free

variable {free : Nat} {tokens : List Token} {trees : List Node}

/-- A statement may take one comparison beyond the levels that are free. -/
theorem Phrase.within_statement (within : Node.Within (free + 1) free trees) :
    Node.Within (Phrase.statement.levels (free + 1) tokens)
      (Phrase.statement.comparisons (free + 1)) trees := by
  refine within.mono ?_ (Nat.le_refl _)
  rw [levels]
  split
  · exact Nat.le_max_left _ _
  · exact Nat.le_refl _

theorem Item.phrase_levels (item : Item) : item.phrase.levels free tokens = item.levels free := by
  cases item <;> rfl

theorem Item.phrase_comparisons (item : Item) :
    item.phrase.comparisons free = item.comparisons free := by
  cases item <;> rfl

theorem Level.operand_levels (level : Level) :
    level.operand.levels free tokens = free + 1 := by
  cases level <;> rfl

theorem Level.operand_comparisons (level : Level) :
    level.operand.comparisons free = free := by
  cases level <;> rfl

/-- Every phrase keeps to its levels: an expression takes one for itself, which its comparison, if
it has one, takes again. -/
theorem Reads.within {phrase : Phrase} {rest : List Token} {faults : List Diagnostic}
    (reads : Reads free phrase tokens trees rest faults) :
    Node.Within (phrase.levels free tokens) (phrase.comparisons free) trees := by
  induction reads with
  | number => exact (Node.Within.leaf rfl).mono (Nat.le_add_left 1 _) (Nat.zero_le _)
  | string => exact (Node.Within.leaf rfl).mono (Nat.le_add_left 1 _) (Nat.zero_le _)
  | name => exact (Node.Within.leaf rfl).mono (Nat.le_add_left 1 _) (Nat.zero_le _)
  | call _ _ _ _ ih => exact ih.above rfl
  | parenthesized _ _ _ ih => exact ih.mono (Nat.le_succ _) (Nat.le_refl _)
  | @operand _ level _ _ _ _ _ ih =>
    rwa [level.operand_levels, level.operand_comparisons] at ih
  | @operation _ level _ _ _ _ _ _ _ _ _ _ isSign _ bound ih ih' =>
    rw [level.operand_levels, level.operand_comparisons] at ih'
    refine ⟨?_, ((ih.append ih').above (level.not_isComparison isSign)).comparisons⟩
    simp only [Node.heightOfAll, Node.height_binary, Phrase.levels]
    omega
  | arithmetic _ ih => exact ih.mono (Nat.le_refl _) (Nat.le_succ _)
  | comparison _ _ isSign _ ih ih' =>
    exact (ih.append ih').comparison (by simpa [Node.isComparison] using isSign)
  | parameter => exact .leaf rfl
  | missingParameter => exact .nil
  | noItems => exact .nil
  | @items _ item _ _ _ _ _ _ _ _ _ ih ih' =>
    rw [item.phrase_levels, item.phrase_comparisons] at ih
    exact ih.append ih'
  | noMore => exact .nil
  | @more _ item _ _ _ _ _ _ _ _ _ _ _ ih ih' =>
    rw [item.phrase_levels, item.phrase_comparisons] at ih
    exact ih.append ih'
  | @definition free _ _ _ _ parameters _ _ _ _ body _ _ isDef _ _ _ _ _ _ ih ih' =>
    have signature : Node.Within (max 1 free) (free - 1) parameters :=
      ih.mono (Nat.le_max_left _ _) (Nat.zero_le _)
    have statements : Node.Within (max 1 free) (free - 1) body :=
      ih'.mono (Nat.le_max_right _ _) (Nat.le_refl _)
    refine ((signature.append statements).above rfl).mono ?_ (Nat.sub_le _ 1)
    simp only [Phrase.levels, List.head?_cons, Option.any_some, isDef, if_true]
    omega
  | conditional _ _ _ _ _ ih ih' =>
    have body := ih'.mono (Nat.le_refl _) (Nat.sub_le _ 1)
    exact Phrase.within_statement ((ih.append body).above rfl)
  | alternative _ _ _ _ _ _ _ ih ih' ih'' =>
    have bodies := (ih'.append ih'').mono (Nat.le_refl _) (Nat.sub_le _ 1)
    exact Phrase.within_statement ((ih.append bodies).above rfl)
  | bareReturn =>
    exact Phrase.within_statement
      ((Node.Within.leaf rfl).mono (Nat.le_add_left 1 _) (Nat.zero_le _))
  | returnValue _ _ _ ih => exact Phrase.within_statement (ih.above rfl)
  | assignment _ _ _ ih => exact Phrase.within_statement (ih.above rfl)
  | expression _ ih => exact Phrase.within_statement (ih.mono (Nat.le_succ _) (Nat.le_refl _))
  | bodyEnd => exact .nil
  | brokenBody => exact .nil
  | bodyStatement goesOn _ _ ih ih' =>
    rw [Phrase.levels, Ending.not_def goesOn] at ih
    exact ih.append ih'

/-- Every statement of a program fits into the levels and comparisons that its reading had. -/
theorem ReadsProgram.within {faults : List Diagnostic}
    (reads : ReadsProgram free tokens trees faults) :
    ∀ statement ∈ trees, Node.Within (max free 2) (free - 1) [statement] := by
  induction reads with
  | done => simp
  | @statement tokens node rest before others after first _ ih =>
    rintro statement (_ | ⟨_, member⟩)
    · refine first.within.mono ?_ (Nat.le_refl _)
      rw [Phrase.levels]
      split
      · exact Nat.le_refl _
      · exact Nat.le_max_left _ _
    · exact ih statement member
  | failure _ _ _ ih => exact ih

section Nesting

/-- So many calls of `f` in one another around a number. -/
def nestedCalls : Nat → List Token → List Token
  | 0, rest => ⟨.number, "1", 1, 1⟩ :: rest
  | calls + 1, rest =>
    ⟨.identifier, "f", 1, 1⟩ :: ⟨.symbol, "(", 1, 1⟩ ::
      nestedCalls calls (⟨.symbol, ")", 1, 1⟩ :: rest)

def nestedCallTree : Nat → Node
  | 0 => .leaf .number "1" 1
  | calls + 1 => .mk .functionCall "f" 1 [nestedCallTree calls]

/-- Every call adds a level to the number in the middle. -/
theorem nestedCallTree_height (calls : Nat) : (nestedCallTree calls).height = calls + 1 := by
  induction calls with
  | zero => rfl
  | succ calls ih => simp [nestedCallTree, Node.height, Node.heightOfAll, ih]

/-- An operand alone is an arithmetic expression if no sign of one comes next. -/
theorem arithmetic_of_factor {inner : Reader Node} {node : Node} {rest : List Token}
    (yields : (factor inner).Yields tokens node rest [])
    (stops : ∀ level : Level, rest.head?.any (isOperatorOf level.signs) = false) :
    (arithmetic free inner).Yields tokens node rest [] := by
  have alone (level : Level) {operand : Reader Node} (yields : operand.Yields tokens node rest []) :
      (chain free level.signs operand).Yields tokens node rest [] := by
    refine Reader.yields_bind.mpr ⟨node, rest, [], [], yields, ?_, rfl⟩
    rw [Reader.Yields, chainFrom_stop (stops level)]
    exact ⟨rfl, rfl, rfl⟩
  exact alone .sum (alone .product yields)

/-- A factor that nothing carries on is a whole comparison. -/
theorem comparison_of_factor {inner : Reader Node} {node : Node} {rest : List Token}
    (yields : (factor inner).Yields tokens node rest []) (settled : Settled rest) :
    (comparison free inner).Yields tokens node rest [] := by
  have stops (operators : List String) := head_not_operator settled operators
  refine Reader.yields_bind.mpr ⟨node, rest, [], [],
    arithmetic_of_factor yields fun level => stops level.signs, ?_, rfl⟩
  exact Reader.yields_bind.mpr ⟨none, rest, [], [],
    Reader.yields_accept_none.mpr ⟨stops comparisonOperators, rfl, rfl⟩,
    Reader.yields_pure.mpr ⟨rfl, rfl, rfl⟩, rfl⟩

/-- A call with one argument, read from its argument. -/
theorem factor_of_argument {inner : Reader Node} {callee opening first closing : Token}
    {argument : Node} {rest : List Token} (identifier : callee.kind = .identifier)
    (opens : opening.isSymbol "(" = true) (starts : first.isSymbol ")" = false)
    (yields : inner.Yields (first :: tokens) argument (closing :: rest) [])
    (closes : closing.isSymbol ")" = true) :
    (factor inner).Yields (callee :: opening :: first :: tokens)
      (.mk .functionCall callee.text callee.line [argument]) rest [] := by
  have noComma : closing.isSymbol "," = false := by
    simp [Token.isSymbol, Token.is, (Token.is_iff.mp closes).2]
  have others : Reader.Yields (Reader.behindCommas inner) (closing :: rest) [] (closing :: rest)
      [] := by
    rw [Reader.Yields, behindCommas_stop (by simpa using noComma)]
    exact ⟨rfl, rfl, rfl⟩
  have list : (Reader.commaSeparated inner).Yields (first :: tokens) [argument] (closing :: rest)
      [] := by
    simp only [Reader.commaSeparated, Reader.yields_next_bind, List.head?_cons, Option.any_some,
      starts, Bool.not_false, if_true]
    refine Reader.yields_bind.mpr ⟨argument, _, [], [], yields, ?_, rfl⟩
    exact Reader.yields_bind.mpr ⟨[], _, [], [], others,
      Reader.yields_pure.mpr ⟨rfl, rfl, rfl⟩, rfl⟩
  simp only [factor, Reader.yields_peek_bind, List.head?_cons, identifier, reduceCtorEq, if_false,
    if_true, Reader.yields_skip_bind, List.tail_cons, Reader.yields_next_bind, Option.any_some,
    opens, call]
  refine Reader.yields_bind.mpr ⟨[argument], _, [], [], list, ?_, rfl⟩
  simp [Reader.symbol, closes]

theorem factor_number {inner : Reader Node} {token : Token} {rest : List Token}
    (number : token.kind = .number) :
    (factor inner).Yields (token :: rest) (.leaf .number token.text token.line) rest [] := by
  simp only [factor, Reader.yields_peek_bind, List.head?_cons, number, if_true,
    Reader.yields_skip_bind, List.tail_cons, Reader.yields_pure, and_self]

theorem nestedCalls_starts (calls : Nat) (rest : List Token) :
    ∃ first more, nestedCalls calls rest = first :: more ∧ first.isSymbol ")" = false ∧
      first.kind ≠ .keyword := by
  cases calls <;> exact ⟨_, _, rfl, rfl, nofun⟩

/-- Calls are read as long as there is a free level for each. -/
theorem nestedCalls_factor {lastLine : UInt32} {calls : Nat} (room : calls ≤ free)
    (rest : List Token) :
    (factor (expression lastLine free)).Yields (nestedCalls calls rest) (nestedCallTree calls)
      rest [] := by
  induction calls generalizing free rest with
  | zero => exact factor_number rfl
  | succ calls ih =>
    obtain ⟨free, rfl⟩ := Nat.exists_eq_add_one.mpr (Nat.zero_lt_of_lt room)
    have inner : (expression lastLine (free + 1)).Yields _ _ _ [] :=
      comparison_of_factor (ih (Nat.le_of_succ_le_succ room) (⟨.symbol, ")", 1, 1⟩ :: rest)) rfl
    obtain ⟨first, more, begins, starts, -⟩ :=
      nestedCalls_starts calls (⟨.symbol, ")", 1, 1⟩ :: rest)
    rw [begins] at inner
    rw [nestedCalls, begins, nestedCallTree]
    exact factor_of_argument rfl rfl starts inner rfl

/-- A `return` of a comparison with so many calls in one another on its left. -/
def comparedReturn (calls : Nat) : List Token :=
  ⟨.keyword, "return", 1, 1⟩ ::
    nestedCalls calls [⟨.operator, "==", 1, 1⟩, ⟨.number, "1", 1, 1⟩]

def comparedReturnTree (calls : Nat) : Node :=
  .mk .returnStatement "" 1 [.binary "==" 1 (nestedCallTree calls) (.leaf .number "1" 1)]

/-- The comparison takes its node without asking for a level. -/
theorem comparedReturn_yields (lastLine : UInt32) (calls : Nat) :
    (statement lastLine (calls + 2)).Yields (comparedReturn calls) (comparedReturnTree calls)
      [] [] := by
  have left : (arithmetic calls (expression lastLine calls)).Yields _ _ _ [] :=
    arithmetic_of_factor
      (nestedCalls_factor (Nat.le_refl calls) [⟨.operator, "==", 1, 1⟩, ⟨.number, "1", 1, 1⟩])
      (by intro level; cases level <;> decide)
  have right : (arithmetic calls (expression lastLine calls)).Yields _ _ [] [] :=
    arithmetic_of_factor (@factor_number _ ⟨.number, "1", 1, 1⟩ [] rfl) (fun _ => rfl)
  have value : (expression lastLine (calls + 1)).Yields _ _ [] [] :=
    Reader.yields_bind.mpr ⟨_, _, [], [], left, Reader.yields_bind.mpr ⟨_, _, [], [],
      Reader.yields_accept_some.mpr ⟨rfl, by decide, rfl⟩,
      Reader.yields_bind.mpr ⟨_, _, [], [], right, Reader.yields_pure.mpr ⟨rfl, rfl, rfl⟩, rfl⟩,
      rfl⟩, rfl⟩
  obtain ⟨first, more, begins, -, starts⟩ :=
    nestedCalls_starts calls [⟨.operator, "==", 1, 1⟩, ⟨.number, "1", 1, 1⟩]
  have noDef : (⟨.keyword, "return", 1, 1⟩ : Token).isKeyword "def" = false := by decide
  have noIf : (⟨.keyword, "return", 1, 1⟩ : Token).isKeyword "if" = false := by decide
  have isReturn : (⟨.keyword, "return", 1, 1⟩ : Token).isKeyword "return" = true := by decide
  have goesOn : (nestedCalls calls [⟨.operator, "==", 1, 1⟩, ⟨.number, "1", 1, 1⟩]).head?.any
      (·.kind != .keyword) = true := by
    simp [begins, starts]
  simp only [comparedReturn, statement, statementOf, Reader.yields_peek_bind, List.head?_cons,
    noDef, noIf, isReturn, Bool.false_eq_true, if_false, if_true, returnStatement,
    Reader.yields_skip_bind, List.tail_cons, Reader.yields_next_bind, goesOn]
  exact Reader.yields_bind.mpr ⟨_, _, [], [], value, Reader.yields_pure.mpr ⟨rfl, rfl, rfl⟩, rfl⟩

theorem nestedCalls_significant (calls : Nat) {rest : List Token}
    (significant : significantTokens rest = rest) :
    significantTokens (nestedCalls calls rest) = nestedCalls calls rest := by
  induction calls generalizing rest with
  | zero => exact congrArg (_ :: ·) significant
  | succ calls ih =>
    have closing : significantTokens (⟨.symbol, ")", 1, 1⟩ :: rest) =
        ⟨.symbol, ")", 1, 1⟩ :: rest := congrArg (_ :: ·) significant
    exact congrArg (_ :: _ :: ·) (ih closing)

theorem comparedReturn_accepted :
    (TreeReport.ofTokens (comparedReturn 254)).valid = true ∧
      (TreeReport.ofTokens (comparedReturn 254)).tree.children = [comparedReturnTree 254] := by
  have significant : significantTokens (comparedReturn 254) = comparedReturn 254 :=
    congrArg (_ :: ·) (nestedCalls_significant 254 rfl)
  have descent : descend (comparedReturn 254) = ([comparedReturnTree 254], []) :=
    statements_of_yields_all (comparedReturn_yields _ 254)
  rw [valid_iff, tree_eq_descend, significant, descent]
  exact ⟨⟨nofun, rfl⟩, rfl⟩

end Nesting

/-- No statement is higher than the bound on nesting by more than the comparisons on one way down,
and of those there are fewer than the bound. So a program without comparisons keeps to it. -/
theorem statement_height_le (tokens : List Token) :
    ∀ statement ∈ (TreeReport.ofTokens tokens).tree.children,
      statement.height ≤ maxNestingDepth + statement.comparisonDepth ∧
        statement.comparisonDepth < maxNestingDepth := by
  intro statement member
  rw [tree_eq_descend] at member
  have within := (statements_reads _ maxNestingDepth _).within statement member
  have height := within.height
  have comparisons := within.comparisons
  simp only [Node.heightOfAll, Node.comparisonDepthOfAll, maxNestingDepth] at height comparisons ⊢
  omega

theorem statement_height_le_comparedReturn :
    comparedReturnTree 254 ∈ (TreeReport.ofTokens (comparedReturn 254)).tree.children ∧
      (comparedReturnTree 254).height ≤
        maxNestingDepth + (comparedReturnTree 254).comparisonDepth ∧
      (comparedReturnTree 254).comparisonDepth < maxNestingDepth := by
  have member : comparedReturnTree 254 ∈
      (TreeReport.ofTokens (comparedReturn 254)).tree.children :=
    comparedReturn_accepted.2 ▸ List.mem_singleton_self _
  exact ⟨member, statement_height_le _ _ member⟩

/-- A tree one level higher than the bound on nesting, of a program without faults. -/
theorem comparedReturn_exceeds :
    (TreeReport.ofTokens (comparedReturn 254)).valid = true ∧
      ∃ statement ∈ (TreeReport.ofTokens (comparedReturn 254)).tree.children,
        maxNestingDepth < statement.height := by
  obtain ⟨valid, children⟩ := comparedReturn_accepted
  refine ⟨valid, comparedReturnTree 254, children ▸ List.mem_singleton_self _, ?_⟩
  have height := nestedCallTree_height 254
  simp only [comparedReturnTree, Node.height, Node.heightOfAll, Node.height_binary, height,
    maxNestingDepth]
  omega

end Grammar
end SnippetCheck

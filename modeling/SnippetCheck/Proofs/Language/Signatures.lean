import Mathlib.Data.List.Forall2
import SnippetCheck.Proofs.Language.Acceptance
import SnippetCheck.Proofs.Token.Signature
import SnippetCheck.Proofs.Tree.ReadingOrder

namespace SnippetCheck

namespace Signatures

/-- A `def` with the tokens behind it. -/
structure Site where
  keyword : Token
  behind : List Token

/-- What the check of signatures says about one `def`. -/
def Site.fault? (site : Site) : Option Diagnostic :=
  fault site.keyword.line site.behind

/-- The node is a definition of the name that stands first behind the `def`. -/
def Site.Names (site : Site) (node : Node) : Prop :=
  ∃ name rest, site.behind = name :: rest ∧ name.kind = .identifier ∧ name.text = node.value ∧
    name.line = node.line

/-- Every `def` of a token list, in order. -/
def sites : List Token → List Site
  | [] => []
  | token :: rest => if token.isKeyword "def" then ⟨token, rest⟩ :: sites rest else sites rest

/-- The sites behind some tokens are those of the rest. -/
theorem sites_append (front rest : List Token) :
    ∃ passed, sites (front ++ rest) = passed ++ sites rest := by
  induction front with
  | nil => exact ⟨[], rfl⟩
  | cons token front ih =>
    obtain ⟨passed, same⟩ := ih
    rw [List.cons_append, sites, same]
    split
    · exact ⟨_ :: passed, rfl⟩
    · exact ⟨passed, rfl⟩

theorem keyword_of_mem_sites {tokens : List Token} {site : Site} (member : site ∈ sites tokens) :
    site.keyword.isKeyword "def" = true := by
  induction tokens with
  | nil => cases member
  | cons token rest ih =>
    rw [sites] at member
    split at member
    · next isDef =>
      rcases List.mem_cons.mp member with rfl | later
      · exact isDef
      · exact ih later
    · exact ih member

/-- There is one site for every `def`. -/
theorem length_sites (tokens : List Token) :
    (sites tokens).length = tokens.countP (·.isKeyword "def") := by
  induction tokens with
  | nil => rfl
  | cons token rest ih =>
    rw [sites, List.countP_cons]
    split <;> simp [ih]

/-- The faults of definitions are those of their sites. -/
theorem check_eq_filterMap (tokens : List Token) :
    check tokens = (sites tokens).filterMap Site.fault? := by
  induction tokens with
  | nil => rfl
  | cons token rest ih =>
    rw [check, sites, ih]
    split
    · rw [List.filterMap_cons, Site.fault?]
      cases fault token.line rest <;> rfl
    · rfl

/-- A definition without a fault and one with a fault are two. -/
theorem length_add_length_check_le {kept : List Site} {tokens : List Token}
    (sublist : kept.Sublist (sites tokens)) (sound : ∀ site ∈ kept, site.fault? = none) :
    kept.length + (check tokens).length ≤ tokens.countP (·.isKeyword "def") := by
  rw [check_eq_filterMap, ← length_sites]
  generalize sites tokens = all at sublist ⊢
  induction sublist with
  | slnil => simp
  | cons site _ ih =>
    have ih := ih sound
    rw [List.filterMap_cons]
    cases site.fault? <;> simp only [List.length_cons] at ih ⊢ <;> omega
  | cons_cons site _ ih =>
    have ih := ih fun other member => sound other (List.mem_cons_of_mem _ member)
    rw [List.filterMap_cons, sound site List.mem_cons_self]
    simp only [List.length_cons] at ih ⊢
    omega

/-- A name, a parenthesis and a colon ahead are all that is asked for. -/
theorem fault_eq_none {name opening : Token} {signature : List Token} (line : UInt32)
    (identifier : name.kind = .identifier) (opens : opening.isSymbol "(" = true)
    (ahead : Grammar.colonAhead signature = true) :
    fault line (name :: opening :: signature) = none := by
  have ahead := Grammar.colonAhead_cons (Token.not_isKeyword_of_isSymbol opens "def") ahead
  simp only [Grammar.colonAhead] at ahead
  simp only [fault, identifier, if_true, List.head?_cons, Option.any_some, opens, ahead]

end Signatures

open Signatures

namespace Node

/-- The definitions among the nodes of some trees. -/
def definitionsOfAll (trees : List Node) : List Node :=
  (preOrderOfAll trees).filter (·.kind == .functionDef)

/-- The definitions in a tree, in pre-order. -/
def definitions (tree : Node) : List Node :=
  tree.preOrder.filter (·.kind == .functionDef)

theorem definitions_program (statements : List Node) :
    (program statements).definitions = definitionsOfAll statements := by
  simp [definitions, program, preOrder, definitionsOfAll, kind]

theorem definitionsOfAll_append (trees others : List Node) :
    definitionsOfAll (trees ++ others) = definitionsOfAll trees ++ definitionsOfAll others := by
  simp only [definitionsOfAll, preOrderOfAll_eq_flatMap, List.flatMap_append, List.filter_append]

theorem definitionsOfAll_mk (kind : NodeKind) (value : String) (line : UInt32)
    (children : List Node) :
    definitionsOfAll [mk kind value line children] =
      if kind = .functionDef then mk kind value line children :: definitionsOfAll children
      else definitionsOfAll children := by
  by_cases definition : kind = .functionDef <;>
    simp [definitionsOfAll, preOrderOfAll, preOrder, Node.kind, definition]

end Node

namespace Grammar

/-- The definitions in the trees of a reading come, in order and one each, from `def`s that it has
passed, and the check of signatures has nothing to say about these. -/
def Defines (tokens : List Token) (trees : List Node) (rest : List Token) : Prop :=
  ∃ passed kept, sites tokens = passed ++ sites rest ∧ kept.Sublist passed ∧
    List.Forall₂ Site.Names kept (Node.definitionsOfAll trees) ∧
    ∀ site ∈ kept, site.fault? = none

section Defines

variable {tokens middle rest : List Token} {trees trees' : List Node} {token : Token}

/-- Tokens that are given up leave sites without a definition. -/
theorem Defines.lost (suffix : rest <:+ tokens) : Defines tokens [] rest := by
  obtain ⟨front, rfl⟩ := suffix
  obtain ⟨passed, same⟩ := sites_append front rest
  exact ⟨passed, [], same, List.nil_sublist _, .nil, nofun⟩

/-- Definitions of parts that follow one another stand at sites that do. -/
theorem Defines.append (first : Defines tokens trees middle)
    (second : Defines middle trees' rest) : Defines tokens (trees ++ trees') rest := by
  obtain ⟨passed, kept, same, sublist, names, sound⟩ := first
  obtain ⟨passed', kept', same', sublist', names', sound'⟩ := second
  refine ⟨passed ++ passed', kept ++ kept', by rw [same, same', List.append_assoc],
    sublist.append sublist', ?_, ?_⟩
  · rw [Node.definitionsOfAll_append]
    exact List.rel_append names names'
  · exact fun site member => (List.mem_append.mp member).elim (sound site) (sound' site)

theorem Defines.behind (token : Token) (defines : Defines tokens trees rest) :
    Defines (token :: tokens) trees rest :=
  (Defines.lost (List.suffix_cons token tokens)).append defines

theorem Defines.before (defines : Defines tokens trees (token :: rest)) :
    Defines tokens trees rest := by
  simpa using defines.append (Defines.lost (List.suffix_cons token rest))

/-- A node that is no definition has those of its children. -/
theorem Defines.above {kind : NodeKind} (value : String) (line : UInt32)
    (below : Defines tokens trees rest) (noDefinition : kind ≠ .functionDef) :
    Defines tokens [.mk kind value line trees] rest := by
  rwa [Defines, Node.definitionsOfAll_mk, if_neg noDefinition]

/-- A definition that is read stands at the site of its `def`, with those in its body behind it. -/
theorem Defines.definition {keyword name : Token} (isDef : keyword.isKeyword "def" = true)
    (identifier : name.kind = .identifier) (sound : fault keyword.line (name :: tokens) = none)
    (below : Defines tokens trees rest) :
    Defines (keyword :: name :: tokens) [.mk .functionDef name.text name.line trees] rest := by
  obtain ⟨passed, kept, same, sublist, names, clean⟩ := below.behind name
  refine ⟨⟨keyword, name :: tokens⟩ :: passed, ⟨keyword, name :: tokens⟩ :: kept, ?_,
    sublist.cons_cons _, ?_, List.forall_mem_cons.mpr ⟨sound, clean⟩⟩
  · rw [sites, if_pos isDef, same]
    rfl
  · rw [Node.definitionsOfAll_mk, if_pos rfl]
    exact .cons ⟨name, tokens, rfl, identifier, rfl, rfl⟩ names

end Defines

/-- A list of parameters holds neither a colon nor a `def`, even where a parameter is missing. -/
theorem Reads.parameters_colonAhead {free : Nat} {phrase : Phrase} {tokens rest : List Token}
    {trees : List Node} {faults : List Diagnostic}
    (reads : Reads free phrase tokens trees rest faults)
    (parameters : phrase = .parameter ∨ phrase = .list .parameter ∨ phrase = .more .parameter)
    (ahead : colonAhead rest = true) : colonAhead tokens = true := by
  induction reads with
  | parameter kind => exact colonAhead_cons (Token.not_isKeyword_of_kind (by simp [kind]) _) ahead
  | missingParameter => exact ahead
  | noItems => exact ahead
  | @items _ item _ _ _ _ _ _ _ _ _ ih ih' =>
    obtain rfl : item = .parameter := by simpa using parameters
    exact ih (.inl rfl) (ih' (.inr (.inr rfl)) ahead)
  | noMore => exact ahead
  | @more _ item _ _ _ _ _ _ _ _ comma _ _ ih ih' =>
    obtain rfl : item = .parameter := by simpa using parameters
    exact colonAhead_cons (inert_of_comma comma).definition
      (ih (.inl rfl) (ih' (.inr (.inr rfl)) ahead))
  | _ => simp at parameters

/-- What is read as a signature up to its colon is none that the check of signatures objects
to. -/
theorem Reads.signature_sound {free : Nat} {name opening closing colon : Token}
    {signature start : List Token} {parameters : List Node} {faults : List Diagnostic}
    (line : UInt32) (identifier : name.kind = .identifier) (opens : opening.isSymbol "(" = true)
    (reads : Reads free (.list .parameter) signature parameters (closing :: colon :: start) faults)
    (closes : closing.isSymbol ")" = true) (isColon : colon.isSymbol ":" = true) :
    fault line (name :: opening :: signature) = none := by
  refine fault_eq_none line identifier opens (reads.parameters_colonAhead (.inr (.inl rfl)) ?_)
  refine colonAhead_cons (Token.not_isKeyword_of_isSymbol closes _) ?_
  simp [colonAhead, (inert_of_colon isColon).definition, isColon]

/-- Whatever is read, with faults or without, finds its definitions at sound signatures. -/
theorem Reads.defines {free : Nat} {phrase : Phrase} {tokens rest : List Token}
    {trees : List Node} {faults : List Diagnostic}
    (reads : Reads free phrase tokens trees rest faults) : Defines tokens trees rest := by
  have nothing (tokens : List Token) : Defines tokens [] tokens := .lost List.suffix_rfl
  induction reads with
  | number => exact ((nothing _).above _ _ (by decide)).behind _
  | string => exact ((nothing _).above _ _ (by decide)).behind _
  | name => exact ((nothing _).above _ _ (by decide)).behind _
  | call _ _ _ _ ih => exact ((ih.before.above _ _ (by decide)).behind _).behind _
  | parenthesized _ _ _ ih => exact ih.before.behind _
  | operand _ ih => exact ih
  | operation _ _ _ _ _ ih ih' => exact (ih.before.append ih').above _ _ (by decide)
  | arithmetic _ ih => exact ih
  | comparison _ _ _ _ ih ih' => exact (ih.before.append ih').above _ _ (by decide)
  | parameter => exact ((nothing _).above _ _ (by decide)).behind _
  | missingParameter => exact nothing _
  | noItems => exact nothing _
  | items _ _ ih ih' => exact ih.append ih'
  | noMore => exact nothing _
  | more _ _ _ ih ih' => exact (ih.append ih').behind _
  | definition isDef name opens signature closes colon _ ih ih' =>
    exact .definition isDef name (signature.signature_sound _ name opens closes colon)
      ((ih.before.before.append ih').behind _)
  | conditional _ _ _ _ _ ih ih' => exact ((ih.before.append ih').above _ _ (by decide)).behind _
  | alternative _ _ _ _ _ _ _ ih ih' ih'' =>
    exact ((ih.before.append (ih'.before.before.append ih'')).above _ _ (by decide)).behind _
  | bareReturn => exact ((nothing _).above _ _ (by decide)).behind _
  | returnValue _ _ _ ih => exact (ih.above _ _ (by decide)).behind _
  | assignment _ _ _ ih => exact ((ih.above _ _ (by decide)).behind _).behind _
  | expression _ ih => exact ih
  | bodyEnd => exact nothing _
  | brokenBody suffix => exact .lost suffix
  | bodyStatement _ _ _ ih ih' => exact ih.append ih'

/-- All definitions of a program stand at sites of their own, in order. -/
theorem ReadsProgram.defines {free : Nat} {tokens : List Token} {trees : List Node}
    {faults : List Diagnostic} (reads : ReadsProgram free tokens trees faults) :
    Defines tokens trees [] := by
  induction reads with
  | done => exact .lost List.suffix_rfl
  | statement first _ ih => exact first.defines.append ih
  | failure suffix _ _ ih =>
    exact (Defines.lost (suffix.trans (List.suffix_cons _ _))).append ih

/-- Where something is read as a value, it begins as one. -/
theorem Reads.starts {free : Nat} {phrase : Phrase} {tokens rest : List Token}
    {trees : List Node} {faults : List Diagnostic}
    (reads : Reads free phrase tokens trees rest faults) (value : phrase.isValue = true) :
    ∃ token more, tokens = token :: more ∧ StartsExpression token := by
  induction reads with
  | number kind => exact ⟨_, _, rfl, .inl kind⟩
  | string kind => exact ⟨_, _, rfl, .inr (.inl kind)⟩
  | name kind => exact ⟨_, _, rfl, .inr (.inr (.inl kind))⟩
  | call callable => exact ⟨_, _, rfl, .inr (.inr (callable.imp_right .inl))⟩
  | parenthesized opens => exact ⟨_, _, rfl, .inr (.inr (.inr (.inr opens)))⟩
  | @operand _ level _ _ _ _ _ ih => exact ih level.operand_isValue
  | operation _ _ _ _ _ ih => exact ih rfl
  | arithmetic _ ih => exact ih rfl
  | comparison _ _ _ _ ih => exact ih rfl
  | _ => simp [Phrase.isValue] at value

/-- What is read at a `def` is a definition with a sound signature. -/
theorem Reads.fault?_eq_none {free : Nat} {keyword : Token} {behind rest : List Token}
    {node : Node} {faults : List Diagnostic} (isDef : keyword.isKeyword "def" = true)
    (reads : Reads free .statement (keyword :: behind) [node] rest faults) :
    Site.fault? ⟨keyword, behind⟩ = none := by
  have noWord {word : String} (other : "def" ≠ word) : ¬keyword.isKeyword word = true := by
    simp [Token.not_isKeyword_of_ne isDef other]
  cases reads with
  | definition _ name opens signature closes colon =>
    exact signature.signature_sound _ name opens closes colon
  | conditional isIf => exact absurd isIf (noWord (by decide))
  | alternative isIf => exact absurd isIf (noWord (by decide))
  | bareReturn isReturn => exact absurd isReturn (noWord (by decide))
  | returnValue isReturn => exact absurd isReturn (noWord (by decide))
  | assignment name => simp [Token.kind_of_isKeyword isDef] at name
  | expression inner =>
    obtain ⟨token, more, same, starts⟩ := inner.starts rfl
    cases same
    obtain ⟨kind, text⟩ := Token.is_iff.mp isDef
    simp [StartsExpression, Token.isKeyword, Token.isSymbol, Token.is, kind, text] at starts

/-- At a `def` with a faulty signature no statement is read, however much nesting is left. -/
theorem statement_of_fault {tokens : List Token} {site : Site} (member : site ∈ sites tokens)
    (faulty : site.fault? ≠ none) (lastLine : UInt32) (free : Nat) :
    (statement lastLine free (site.keyword :: site.behind)).result = none := by
  rw [Option.eq_none_iff_forall_ne_some]
  intro node found
  have reads := statement_realizes lastLine free (Reader.yields_of_result found)
  exact faulty (reads.fault?_eq_none (keyword_of_mem_sites member))

/-- The checks of the structure agree with the descent. They find nothing where the descent finds
nothing, so that alone decides whether a program is accepted, and they object to no program of the
grammar. And a `def` to whose signature they object makes no definition in the tree: the definitions
come one each from other `def`s, so that both together are no more than there are `def`s. -/
theorem structure_agrees (tokens : List Token) (nonempty : significantTokens tokens ≠ []) :
    ((descend (significantTokens tokens)).2 = [] →
      structuralFaults (significantTokens tokens) = []) ∧
    ((TreeReport.ofTokens tokens).valid = true ↔ (descend (significantTokens tokens)).2 = []) ∧
    (∀ trees, Program (significantTokens tokens) trees →
      structuralFaults (significantTokens tokens) = []) ∧
    (∀ site ∈ sites (significantTokens tokens), site.fault? ≠ none → ∀ free,
      (statement (lastLine (significantTokens tokens)) free
        (site.keyword :: site.behind)).result = none) ∧
    (∃ kept, kept.Sublist (sites (significantTokens tokens)) ∧
      List.Forall₂ Site.Names kept (TreeReport.ofTokens tokens).tree.definitions ∧
      ∀ site ∈ kept, site.fault? = none) ∧
    (TreeReport.ofTokens tokens).tree.definitions.length +
        (Signatures.check (significantTokens tokens)).length ≤
      tokens.countP (·.isKeyword "def") := by
  have defines : Defines (significantTokens tokens) (descend (significantTokens tokens)).1 [] :=
    (statements_reads _ _ _).defines
  obtain ⟨passed, kept, same, sublist, names, sound⟩ := defines
  obtain rfl : sites (significantTokens tokens) = passed := same.trans (List.append_nil passed)
  have definitions : (TreeReport.ofTokens tokens).tree.definitions =
      Node.definitionsOfAll (descend (significantTokens tokens)).1 := by
    rw [tree_eq_descend, Node.definitions_program]
  refine ⟨descend_structural nonempty, valid_iff.trans (and_iff_right nonempty),
    fun trees program => program.structuralFaults_eq_nil,
    fun site member faulty => statement_of_fault member faulty _,
    ⟨kept, sublist, definitions ▸ names, sound⟩, ?_⟩
  have count : (significantTokens tokens).countP (·.isKeyword "def") =
      tokens.countP (·.isKeyword "def") := by
    rw [significantTokens, List.countP_filter]
    refine List.countP_congr fun token _ => ?_
    rw [Bool.and_eq_true, and_iff_left_iff_imp]
    exact fun isDef => Token.isSignificant_of_kind (Token.kind_of_isKeyword isDef) (by decide)
  rw [definitions, ← count, ← names.length_eq]
  exact length_add_length_check_le sublist sound

/-- A definition, one without a parameter list, and one that is read although a parameter is
missing. -/
def mixedSource : String :=
  "def f(a):\n  return a\ndef g b\ndef h(a,):\n  return 1"

theorem structure_agrees_mixed :
    significantTokens (tokenize mixedSource) ≠ [] ∧
    ((TreeReport.ofTokens (tokenize mixedSource)).valid = true ↔
      (descend (significantTokens (tokenize mixedSource))).2 = []) ∧
    (TreeReport.ofTokens (tokenize mixedSource)).tree.definitions.map Node.value = ["f", "h"] ∧
    Signatures.check (significantTokens (tokenize mixedSource)) = [.missingParameterList 3] ∧
    (TreeReport.ofTokens (tokenize mixedSource)).tree.definitions.length +
        (Signatures.check (significantTokens (tokenize mixedSource))).length ≤
      (tokenize mixedSource).countP (·.isKeyword "def") := by
  have nonempty : significantTokens (tokenize mixedSource) ≠ [] := by decide +kernel
  obtain ⟨-, valid, -, -, -, count⟩ := structure_agrees (tokenize mixedSource) nonempty
  exact ⟨nonempty, valid, by decide +kernel, by decide +kernel, count⟩

end Grammar
end SnippetCheck

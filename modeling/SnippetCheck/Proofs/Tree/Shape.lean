import SnippetCheck.Proofs.Reading.Statement

namespace SnippetCheck

namespace Node

/-- The signs that a node with two operands can have. -/
def signs : List String :=
  ["==", "!=", "<", ">", "<=", ">=", "+", "-", "*", "/", "%"]

/-- The trees that stand for a value. -/
inductive IsExpression : Node → Prop
  | number (text : String) (line : UInt32) : IsExpression (.leaf .number text line)
  | string (text : String) (line : UInt32) : IsExpression (.leaf .string text line)
  | name (text : String) (line : UInt32) : IsExpression (.leaf .identifier text line)
  | call (callee : String) (line : UInt32) {arguments : List Node} :
      (∀ argument ∈ arguments, IsExpression argument) →
      IsExpression (.mk .functionCall callee line arguments)
  | operation {sign : String} (line : UInt32) {left right : Node} : sign ∈ signs →
      IsExpression left → IsExpression right → IsExpression (.binary sign line left right)

/-- The trees that can stand in a body. A definition is none of them. -/
inductive IsStatement : Node → Prop
  | expression {node : Node} : node.IsExpression → IsStatement node
  | conditional (line : UInt32) {condition : Node} {body : List Node} : condition.IsExpression →
      (∀ statement ∈ body, IsStatement statement) →
      IsStatement (.mk .ifStatement "" line (condition :: body))
  | bareReturn (line : UInt32) : IsStatement (.leaf .returnStatement "" line)
  | returnValue (line : UInt32) {value : Node} : value.IsExpression →
      IsStatement (.mk .returnStatement "" line [value])
  | assignment (name : String) (line : UInt32) {value : Node} : value.IsExpression →
      IsStatement (.mk .assignment name line [value])

inductive IsParameter : Node → Prop
  | parameter (name : String) (line : UInt32) : IsParameter (.leaf .parameter name line)

/-- A definition: first its parameters, then the statements of its body. -/
inductive IsDefinition : Node → Prop
  | definition (name : String) (line : UInt32) {parameters body : List Node} :
      (∀ parameter ∈ parameters, parameter.IsParameter) →
      (∀ statement ∈ body, statement.IsStatement) →
      IsDefinition (.mk .functionDef name line (parameters ++ body))

/-- A root with definitions and statements directly below it. -/
structure IsProgram (tree : Node) : Prop where
  root : tree.kind = .program
  children : ∀ child ∈ tree.children, child.IsDefinition ∨ child.IsStatement

end Node

/-- The kinds of node that are not bound to one place: all save roots, definitions and
parameters. -/
def NodeKind.isCommon : NodeKind → Bool
  | program => false
  | functionDef => false
  | parameter => false
  | _ => true

namespace Node

theorem IsExpression.isCommon {node : Node} (shape : node.IsExpression) :
    node.kind.isCommon = true := by
  cases shape <;> rfl

theorem IsStatement.isCommon {node : Node} (shape : node.IsStatement) :
    node.kind.isCommon = true := by
  cases shape with
  | expression value => exact value.isCommon
  | _ => rfl

end Node

namespace Grammar

theorem Level.signs_subset (level : Level) : level.signs ⊆ Node.signs := by
  cases level <;> simp [Level.signs, Node.signs]

theorem comparisonSigns_subset : comparisonSigns ⊆ Node.signs := by
  simp [comparisonSigns, Node.signs]

def Item.Admits : Item → Node → Prop
  | parameter => Node.IsParameter
  | argument => Node.IsExpression

/-- The trees that a phrase can come to. A statement that begins with `def`, and no other, may be
a definition. -/
def Phrase.Admits : Phrase → List Token → Node → Prop
  | statement, tokens, node =>
    node.IsStatement ∨ node.IsDefinition ∧ tokens.head?.any (·.isKeyword "def") = true
  | body _, _, node => node.IsStatement
  | expression, _, node => node.IsExpression
  | chain _, _, node => node.IsExpression
  | factor, _, node => node.IsExpression
  | parameter, _, node => node.IsParameter
  | list item, _, node => item.Admits node
  | more item, _, node => item.Admits node

theorem Level.operand_admits {level : Level} {tokens : List Token} {node : Node} :
    level.operand.Admits tokens node ↔ node.IsExpression := by
  cases level <;> exact .rfl

theorem Item.phrase_admits {item : Item} {tokens : List Token} {node : Node} :
    item.phrase.Admits tokens node ↔ item.Admits node := by
  cases item <;> exact .rfl

/-- No body holds a definition: all of them end where a `def` comes next. -/
theorem Ending.not_def {ending : Ending} {tokens : List Token}
    (goesOn : tokens.head?.any ending.stops = false) :
    tokens.head?.any (·.isKeyword "def") = false := by
  cases tokens with
  | nil => rfl
  | cons token tokens => cases ending <;> simp_all [Ending.stops]

/-- Whatever is read for a phrase has the shape of that phrase, recovered or not. -/
theorem Reads.admits {free : Nat} {phrase : Phrase} {tokens rest : List Token}
    {trees : List Node} {faults : List Diagnostic}
    (reads : Reads free phrase tokens trees rest faults) :
    ∀ node ∈ trees, phrase.Admits tokens node := by
  induction reads with
  | number => simpa [Phrase.Admits] using .number _ _
  | string => simpa [Phrase.Admits] using .string _ _
  | name => simpa [Phrase.Admits] using .name _ _
  | call _ _ _ _ ih => simpa [Phrase.Admits] using .call _ _ ih
  | parenthesized _ _ _ ih => exact ih
  | operand _ ih => exact fun node member => Level.operand_admits.mp (ih node member)
  | operation _ _ isSign _ _ ih ih' =>
    simp only [List.mem_singleton, forall_eq] at ih ih' ⊢
    exact .operation _ (Level.signs_subset _ isSign) ih (Level.operand_admits.mp ih')
  | arithmetic _ ih => exact ih
  | comparison _ _ isSign _ ih ih' =>
    simp only [List.mem_singleton, forall_eq] at ih ih' ⊢
    exact .operation _ (comparisonSigns_subset isSign) ih ih'
  | parameter => simpa [Phrase.Admits] using .parameter _ _
  | missingParameter => simp
  | noItems => simp
  | items _ _ ih ih' =>
    rintro node member
    rcases List.mem_append.mp member with first | later
    · exact Item.phrase_admits.mp (ih node first)
    · exact ih' node later
  | noMore => simp
  | more _ _ _ ih ih' =>
    rintro node member
    rcases List.mem_append.mp member with first | later
    · exact Item.phrase_admits.mp (ih node first)
    · exact ih' node later
  | definition isDef _ _ _ _ _ _ ih ih' =>
    simp only [List.mem_singleton, forall_eq]
    exact .inr ⟨.definition _ _ ih ih', by simpa using isDef⟩
  | conditional _ _ _ _ _ ih ih' =>
    simp only [List.mem_singleton, forall_eq] at ih ⊢
    exact .inl (.conditional _ ih ih')
  | alternative _ _ _ _ _ _ _ ih ih' ih'' =>
    simp only [List.mem_singleton, forall_eq] at ih ⊢
    refine .inl (.conditional _ ih fun statement member => ?_)
    rcases List.mem_append.mp member with first | second
    · exact ih' statement first
    · exact ih'' statement second
  | bareReturn => simpa using .inl (.bareReturn _)
  | returnValue _ _ _ ih =>
    simp only [List.mem_singleton, forall_eq] at ih ⊢
    exact .inl (.returnValue _ ih)
  | assignment _ _ _ ih =>
    simp only [List.mem_singleton, forall_eq] at ih ⊢
    exact .inl (.assignment _ _ ih)
  | expression _ ih =>
    simp only [List.mem_singleton, forall_eq] at ih ⊢
    exact .inl (.expression ih)
  | bodyEnd => simp
  | brokenBody => simp
  | bodyStatement goesOn _ _ ih ih' =>
    rintro node (_ | ⟨_, member⟩)
    · rcases ih _ (List.mem_singleton_self _) with statement | ⟨-, isDef⟩
      · exact statement
      · simp [Ending.not_def goesOn] at isDef
    · exact ih' node member

theorem ReadsProgram.admits {free : Nat} {tokens : List Token} {trees : List Node}
    {faults : List Diagnostic} (reads : ReadsProgram free tokens trees faults) :
    ∀ node ∈ trees, node.IsDefinition ∨ node.IsStatement := by
  induction reads with
  | done => simp
  | statement first _ ih =>
    rintro node (_ | ⟨_, member⟩)
    · exact (first.admits _ (List.mem_singleton_self _)).symm.imp_left And.left
    · exact ih node member
  | failure _ _ _ ih => exact ih

end Grammar
end SnippetCheck

import SnippetCheck.Proofs.Check.Additions
import SnippetCheck.Proofs.Lists
import SnippetCheck.Proofs.Symbol.Declared
import SnippetCheck.Proofs.Token.Partition

namespace SnippetCheck

/-- A call: what is called, on which line, and whether with arguments. -/
structure Call where
  name : String
  line : UInt32
  hasArguments : Bool
  deriving DecidableEq

namespace Neighbours

/-- Whether something other than a closing parenthesis comes second after an index. -/
def hasArguments (tokens : List Token) (index : Nat) : Bool :=
  ((nextIndex tokens index).bind (next tokens)).any (!·.isSymbol ")")

/-- The call of which the token at an index looks like the name. -/
def callAt (tokens : List Token) (entry : Nat × Token) : Option Call :=
  if (entry.2.kind == .identifier || entry.2.isKeyword "print") && opensCall tokens entry.1 &&
      !followsDef tokens entry.1 then
    some ⟨entry.2.text, entry.2.line, hasArguments tokens entry.1⟩
  else none

/-- The calls that the scans over the tokens find, in the order of the names. -/
def calls (tokens : List Token) : List Call :=
  (indexed tokens).filterMap (callAt tokens)

end Neighbours

/-- The call that a place shows. -/
def Place.call? (place : Place) : Option Call :=
  if place.isCall then some ⟨place.token.text, place.token.line, place.hasArguments⟩ else none

def Node.call? (node : Node) : Option Call :=
  if node.kind = .functionCall then some ⟨node.value, node.line, !node.children.isEmpty⟩ else none

def Node.calls (node : Node) (name : String) : Bool :=
  node.kind == .functionCall && node.value == name

/-- The calls of a name in a tree, in pre-order. -/
def Node.callsOf (root : Node) (name : String) : List Node :=
  root.preOrder.filter (·.calls name)

/-- Only tokens that make a node look like the name of a call. -/
theorem Place.token_of_isCall {place : Place} (call : place.isCall = true) :
    place.token.isSignificant = true ∧ place.token.isCarrier = true := by
  simp only [isCall, Bool.and_eq_true, Bool.or_eq_true, beq_iff_eq] at call
  rcases call.1.1 with name | print
  · exact ⟨Token.isSignificant_of_kind name (by decide),
      Token.isCarrier_of_plain name (by decide)⟩
  · exact ⟨Token.isSignificant_of_kind (Token.kind_of_isKeyword print) (by decide),
      Token.isCarrier_of_keyword print (by decide) (by decide)⟩

/-- A place looks like a call if the node that it makes is one. -/
theorem Place.Makes.call? {place : Place} {node : Node} (makes : place.Makes node) :
    place.call? = node.call? := by
  rw [Place.call?, Node.call?, makes.isCall]
  by_cases call : node.kind = .functionCall
  · have named := makes.carries.2
    simp only [call] at named
    rw [if_pos call, if_pos (by simp [call]), named.2, makes.carries.1, makes.hasArguments call]
  · rw [if_neg call, if_neg (by simp [call])]

namespace Neighbours

theorem callAt_eq (tokens : List Token) (entry : Nat × Token) :
    callAt tokens entry = (placeAt tokens entry).call? := by
  rw [callAt, hasArguments, nextIndex_bind_next, opensCall_eq, followsDef_eq]
  rfl

theorem calls_eq (tokens : List Token) :
    calls tokens = (places [] (significantTokens tokens)).flatMap (·.call?.toList) := by
  rw [calls, List.filterMap_eq_flatMap_toList]
  refine flatMap_indexed ?_
  rintro ⟨index, token⟩ -
  rw [callAt_eq]
  cases significant : token.isSignificant with
  | true => rfl
  | false =>
    have none : (placeAt tokens (index, token)).call? = none :=
      if_neg fun call => Bool.false_ne_true (significant.symm.trans (Place.token_of_isCall call).1)
    rw [none]
    rfl

end Neighbours

/-- In a program without faults, the calls among the tokens are those of the tree. -/
theorem calls_eq_preOrder {tokens : List Token}
    (valid : (TreeReport.ofTokens tokens).valid = true) :
    Neighbours.calls tokens =
      (TreeReport.ofTokens tokens).tree.preOrder.filterMap Node.call? := by
  rw [Neighbours.calls_eq]
  refine Grammar.flatMap_places_eq valid ?_ (fun _ _ makes => by rw [makes.call?]) ?_ ?_
  · intro place idle
    have none : place.call? = none :=
      if_neg fun call => Bool.false_ne_true (idle.symm.trans (Place.token_of_isCall call).2)
    rw [none]
    rfl
  · intro node root
    simp [Node.call?, root]
  · intro node operator
    simp [Node.call?, operator]

section Named

variable {tokens : List Token} {name : String} {entry : Nat × Token}

theorem Neighbours.callAt_eq_some_iff {call : Call} :
    callAt tokens entry = some call ↔
      (entry.2.kind = .identifier ∨ entry.2.isKeyword "print" = true) ∧
        opensCall tokens entry.1 = true ∧ followsDef tokens entry.1 = false ∧
        ⟨entry.2.text, entry.2.line, hasArguments tokens entry.1⟩ = call := by
  simp [callAt, and_assoc]

/-- What a call of a free name looks like. The one keyword that can be called is reserved. -/
theorem Neighbours.callAt_any_name (free : isReserved name = false) :
    (callAt tokens entry).any (·.name == name) =
      (entry.2.is .identifier name && (!followsDef tokens entry.1 &&
        opensCall tokens entry.1)) := by
  rw [Bool.eq_iff_iff, Option.any_eq_true]
  simp only [callAt_eq_some_iff, Bool.and_eq_true, Bool.not_eq_true', Token.is_iff, beq_iff_eq]
  constructor
  · rintro ⟨call, ⟨callable, opens, noDef, rfl⟩, same⟩
    have kind : entry.2.kind = .identifier := by
      refine callable.resolve_right fun print => ?_
      rw [← same, (Token.is_iff.mp print).2] at free
      exact absurd (show isReserved "print" = false from free) (by decide)
    exact ⟨⟨kind, same⟩, noDef, opens⟩
  · rintro ⟨⟨kind, same⟩, noDef, opens⟩
    exact ⟨_, ⟨.inl kind, opens, noDef, rfl⟩, same⟩

theorem Node.call?_any_name (node : Node) : node.call?.any (·.name == name) = node.calls name := by
  by_cases call : node.kind = .functionCall <;> simp [Node.call?, Node.calls, call]

/-- The first name that looks like that of a call stands on the line of the first call of it. -/
theorem first_call_line (valid : (TreeReport.ofTokens tokens).valid = true)
    (free : isReserved name = false) :
    ((Neighbours.occurrences tokens name).find? fun entry =>
        !Neighbours.followsDef tokens entry.1 && Neighbours.opensCall tokens entry.1).map
      (·.2.line) =
    ((TreeReport.ofTokens tokens).tree.callsOf name).head?.map Node.line := by
  have scanned : ∀ entry call, Neighbours.callAt tokens entry = some call →
      call.line = entry.2.line := by
    intro entry call found
    obtain ⟨-, -, -, rfl⟩ := Neighbours.callAt_eq_some_iff.mp found
    rfl
  have visited : ∀ (node : Node) call, node.call? = some call → call.line = node.line := by
    intro node call found
    obtain ⟨-, same⟩ := Option.ite_none_right_eq_some.mp found
    cases same
    rfl
  have tokenSide := find?_filterMap_map scanned (·.name == name) (Neighbours.indexed tokens)
  have treeSide := find?_filterMap_map visited (·.name == name)
    (TreeReport.ofTokens tokens).tree.preOrder
  rw [← calls_eq_preOrder valid, Neighbours.calls, tokenSide] at treeSide
  simp only [Neighbours.callAt_any_name free, Node.call?_any_name] at treeSide
  rw [Neighbours.occurrences, List.find?_filter, Node.callsOf, List.head?_filter, ← treeSide]
  simp only [Bool.decide_and, Bool.decide_eq_true]

end Named

section Builtin

/-- A `print` that is a keyword always is the name of a call. -/
theorem Token.Carries.call_of_print {token : Token} {node : Node} (carries : token.Carries node)
    (print : token.isKeyword "print" = true) : node.kind = .functionCall := by
  obtain ⟨kind, text⟩ := is_iff.mp print
  have made := carries.2
  cases role : node.kind <;> simp_all [isKeyword, is]

/-- In a program without faults every `print` is called. -/
theorem print_callAt {tokens : List Token} {index : Nat} {token : Token}
    (valid : (TreeReport.ofTokens tokens).valid = true) (found : tokens[index]? = some token)
    (print : token.isKeyword "print" = true) :
    ∃ call, Neighbours.callAt tokens (index, token) = some call := by
  obtain ⟨node, makes⟩ := Grammar.exists_makes valid found
    (Token.isSignificant_of_kind (Token.kind_of_isKeyword print) (by decide))
    (Token.isCarrier_of_keyword print (by decide) (by decide))
  have shown : (Neighbours.placeAt tokens (index, token)).isCall = true := by
    rw [makes.isCall, makes.carries.call_of_print print]
    rfl
  exact ⟨_, (Neighbours.callAt_eq tokens _).trans (if_pos shown)⟩

theorem Neighbours.map_nextIndex_of_opensCall {tokens : List Token} {index : Nat} {line : UInt32}
    (opens : opensCall tokens index = true) :
    ((nextIndex tokens index).map fun opening =>
        (line, (next tokens opening).any (!·.isSymbol ")"))) =
      some (line, hasArguments tokens index) := by
  rw [hasArguments]
  cases found : nextIndex tokens index with
  | none => simp [opensCall, next, found] at opens
  | some opening => rfl

/-- Among the tokens of a source, a name is never `print`: that word is a keyword, and a keyword
that is called. So neither the check nor the calls count any other token. -/
theorem builtinCalls_eq {source : String} {table : SymbolTable} {watch : WatchList}
    (valid : (TreeReport.ofTokens (tokenize source)).valid = true)
    (watched : watch.callBuiltin = "print") :
    Subject.builtinCalls ⟨tokenize source, table, watch⟩ =
      ((Neighbours.calls (tokenize source)).filter (·.name == "print")).map
        fun call => (call.line, call.hasArguments) := by
  rw [Neighbours.calls, List.filter_filterMap, List.map_filterMap]
  refine List.filterMap_congr ?_
  rintro ⟨index, token⟩ member
  have found := Neighbours.mem_indexed_iff.mp member
  have notName : token.kind = .identifier → token.text ≠ "print" := by
    intro name same
    have free := (isReserved_of_mem_tokenize (List.mem_of_getElem? found)).2 name
    rw [same] at free
    exact absurd free (by decide)
  by_cases print : token.isKeyword "print" = true
  · obtain ⟨kind, text⟩ := Token.is_iff.mp print
    obtain ⟨call, shown⟩ := print_callAt valid found print
    obtain ⟨-, opens, -, rfl⟩ := Neighbours.callAt_eq_some_iff.mp shown
    simp [shown, watched, kind, text, opens, Neighbours.map_nextIndex_of_opensCall opens,
      Option.filter]
  · have noBuiltin : ((token.kind == .identifier || token.kind == .keyword) &&
        token.text == "print") = false := by
      rw [Token.isKeyword, Token.is_iff] at print
      grind
    have noCall : (Neighbours.callAt (tokenize source) (index, token)).filter
        (·.name == "print") = none := by
      rw [Option.filter_eq_none_iff]
      intro call shown
      obtain ⟨callable, -, -, rfl⟩ := Neighbours.callAt_eq_some_iff.mp shown
      simpa using notName (callable.resolve_right print)
    rw [noCall, watched, noBuiltin, Bool.false_and]
    rfl

/-- The calls of a name in a tree, each with its line and whether it has arguments. -/
theorem Node.map_callsOf (root : Node) (name : String) :
    ((root.preOrder.filterMap call?).filter (·.name == name)).map
        (fun call => (call.line, call.hasArguments)) =
      (root.callsOf name).map fun node => (node.line, !node.children.isEmpty) := by
  rw [callsOf, List.filter_filterMap, List.map_filterMap, ← List.filterMap_eq_map,
    List.filterMap_filter]
  refine List.filterMap_congr fun node _ => ?_
  by_cases call : node.kind = .functionCall <;> by_cases same : node.value = name <;>
    simp [call?, calls, call, same, Option.filter]

end Builtin

section Verdicts

variable {source : String} (table : SymbolTable) {watch : WatchList}
  (valid : (TreeReport.ofTokens (tokenize source)).valid = true)

include valid

/-- The check for a recursive call looks for the first call of its name in the tree. -/
theorem recursiveCall_eq (free : isReserved watch.targetFunction = false) :
    Check.run ⟨tokenize source, table, watch⟩ .recursiveCall =
      Subject.verdict s!"recursive call to '{watch.targetFunction}' detected"
        (!((TreeReport.ofTokens (tokenize source)).tree.callsOf watch.targetFunction).isEmpty)
        (((TreeReport.ofTokens (tokenize source)).tree.callsOf
          watch.targetFunction).head?.map Node.line) := by
  have line := first_call_line valid free
  have passed := congrArg Option.isSome line
  have filled (nodes : List Node) : nodes.head?.isSome = !nodes.isEmpty := by
    cases nodes <;> rfl
  rw [Option.isSome_map, Option.isSome_map, filled] at passed
  simp only [Check.run_eq, Check.runOn, Subject.recursiveCall, Subject.none_addVerdict]
  rw [line, passed]

/-- The check for arguments judges all calls of `print` in the tree. -/
theorem callArguments_eq (watched : watch.callBuiltin = "print") :
    Check.run ⟨tokenize source, table, watch⟩ .callArguments =
      Subject.verdict "'print' receives arguments"
        (!((TreeReport.ofTokens (tokenize source)).tree.callsOf "print").isEmpty &&
          ((TreeReport.ofTokens (tokenize source)).tree.callsOf "print").all
            (!·.children.isEmpty))
        ((((TreeReport.ofTokens (tokenize source)).tree.callsOf "print").find?
          (·.children.isEmpty)).map Node.line) := by
  have calls := @builtinCalls_eq source table watch valid watched
  rw [calls_eq_preOrder valid, Node.map_callsOf] at calls
  generalize (TreeReport.ofTokens (tokenize source)).tree.callsOf "print" = prints at calls ⊢
  have childless : (prints.map fun node => (node.line, !node.children.isEmpty)).find? (!·.2) =
      (prints.find? (·.children.isEmpty)).map fun node => (node.line, !node.children.isEmpty) := by
    simp only [List.find?_map, Function.comp_def, Bool.not_not]
  have none : (prints.find? (·.children.isEmpty)).isNone = prints.all (!·.children.isEmpty) := by
    rw [Bool.eq_iff_iff]
    simp
  simp only [Check.run_eq, Check.runOn, Subject.callArguments, Subject.none_addVerdict, calls,
    watched, childless, Option.map_map, Option.isNone_map, none, List.isEmpty_map]
  rfl

end Verdicts

/-- In a program without faults, the tokens that look like the names of calls are those of the
calls in the tree, in the same order. So the check for a recursive call finds the first call of
its name, and the check for arguments judges all calls of `print`. -/
theorem calls_agree (source : String)
    (valid : (TreeReport.ofTokens (tokenize source)).valid = true) :
    Neighbours.calls (tokenize source) =
        (TreeReport.ofTokens (tokenize source)).tree.preOrder.filterMap Node.call? ∧
      (∀ table watch, isReserved watch.targetFunction = false →
        Check.run ⟨tokenize source, table, watch⟩ .recursiveCall =
          Subject.verdict s!"recursive call to '{watch.targetFunction}' detected"
            (!((TreeReport.ofTokens (tokenize source)).tree.callsOf watch.targetFunction).isEmpty)
            (((TreeReport.ofTokens (tokenize source)).tree.callsOf
              watch.targetFunction).head?.map Node.line)) ∧
      (∀ table watch, watch.callBuiltin = "print" →
        Check.run ⟨tokenize source, table, watch⟩ .callArguments =
          Subject.verdict "'print' receives arguments"
            (!((TreeReport.ofTokens (tokenize source)).tree.callsOf "print").isEmpty &&
              ((TreeReport.ofTokens (tokenize source)).tree.callsOf "print").all
                (!·.children.isEmpty))
            ((((TreeReport.ofTokens (tokenize source)).tree.callsOf "print").find?
              (·.children.isEmpty)).map Node.line)) :=
  ⟨calls_eq_preOrder valid, fun table _ => recursiveCall_eq table valid,
    fun table _ => callArguments_eq table valid⟩

/-- Calls within calls, a comment before a parenthesis, and a `print` without arguments. -/
def callingSource : String :=
  "def factorial(n):\n  return n * factorial(f(n))\nprint # all\n (1)\nprint()"

theorem calls_agree_source :
    (TreeReport.ofTokens (tokenize callingSource)).valid = true ∧
    isReserved ({} : WatchList).targetFunction = false ∧
    Neighbours.calls (tokenize callingSource) =
      (TreeReport.ofTokens (tokenize callingSource)).tree.preOrder.filterMap Node.call? ∧
    Check.run ⟨tokenize callingSource, .empty, {}⟩ .recursiveCall =
      Subject.verdict "recursive call to 'factorial' detected" true (some 2) ∧
    Check.run ⟨tokenize callingSource, .empty, {}⟩ .callArguments =
      Subject.verdict "'print' receives arguments" false (some 5) := by
  have valid : (TreeReport.ofTokens (tokenize callingSource)).valid = true := by decide +kernel
  have free : isReserved ({} : WatchList).targetFunction = false := by decide
  obtain ⟨calls, recursive, arguments⟩ := calls_agree callingSource valid
  exact ⟨valid, free, calls, (recursive .empty {} free).trans (by decide +kernel),
    (arguments .empty {} rfl).trans (by decide +kernel)⟩

end SnippetCheck

import SnippetCheck.Proofs.Tree.Placement
import SnippetCheck.Proofs.Tree.WellFormed

namespace SnippetCheck

namespace Neighbours

/-- The kinds of definition that the scans over the tokens take the name at an index for. -/
def kindsAt (tokens : List Token) (index : Nat) : List SymbolKind :=
  (if followsDef tokens index then [.function] else []) ++
    (if (parameterPositions tokens).contains index then [.parameter] else []) ++
    (if isAssigned tokens index then [.assigned] else [])

/-- The definitions that the scans over the tokens find, in the order of the names. -/
def declared (tokens : List Token) : List (String × SymbolKind × UInt32) :=
  (indexed tokens).flatMap fun entry =>
    if entry.2.kind = .identifier then
      (kindsAt tokens entry.1).map fun kind => (entry.2.text, kind, entry.2.line)
    else []

section Scans

variable (tokens : List Token) (entry : Nat × Token)

theorem followsDef_eq : followsDef tokens entry.1 = (placeAt tokens entry).followsDef := by
  rw [followsDef, previous_eq_head?]
  rfl

theorem opensCall_eq : opensCall tokens entry.1 = (placeAt tokens entry).opensCall := by
  rw [opensCall, next_eq_head?]
  rfl

theorem isAssigned_eq : isAssigned tokens entry.1 = (placeAt tokens entry).isAssigned := by
  rw [isAssigned, next_eq_head?]
  rfl

end Scans

theorem kindsAt_eq {tokens : List Token} {index : Nat} {token : Token}
    (found : tokens[index]? = some token) (name : token.kind = .identifier) :
    kindsAt tokens index = (placeAt tokens (index, token)).kinds := by
  rw [kindsAt, contains_parameterPositions_iff found name,
    followsDef_eq tokens (index, token), isAssigned_eq tokens (index, token)]
  rfl

end Neighbours

/-- What a place shows a name to define. -/
def Place.entries (place : Place) : List (String × SymbolKind × UInt32) :=
  if place.token.kind = .identifier then
    place.kinds.map fun kind => (place.token.text, kind, place.token.line)
  else []

theorem Token.Carries.of_defines {token : Token} {node : Node} {kind : SymbolKind}
    (carries : token.Carries node) (defines : node.kind.defines = some kind) :
    token.kind = .identifier ∧ token.text = node.value := by
  have named := carries.2
  cases role : node.kind <;> simp_all [NodeKind.defines]

theorem Place.Makes.entries {place : Place} {node : Node} (makes : place.Makes node) :
    place.entries = node.entry?.toList := by
  rw [Place.entries, Node.entry?]
  cases defines : node.kind.defines with
  | none =>
    split
    · next name => rw [makes.kinds name, defines]; rfl
    · rfl
  | some kind =>
    obtain ⟨name, text⟩ := makes.carries.of_defines defines
    rw [if_pos name, makes.kinds name, defines, text, makes.carries.1]
    rfl

theorem Neighbours.declared_eq (tokens : List Token) :
    declared tokens = (places [] (significantTokens tokens)).flatMap Place.entries := by
  refine flatMap_indexed ?_
  rintro ⟨index, token⟩ member
  by_cases name : token.kind = .identifier
  · have significant := Token.isSignificant_of_kind name (by decide)
    rw [if_pos name, if_pos significant, kindsAt_eq (mem_indexed_iff.mp member) name]
    exact (if_pos name).symm
  · have none : (placeAt tokens (index, token)).entries = [] := if_neg name
    rw [if_neg name, none, ite_self]

/-- In a program without faults, the scans over the tokens find what is logged. -/
theorem definitions_eq_declared {tokens : List Token}
    (valid : (TreeReport.ofTokens tokens).valid = true) :
    (collectSymbols (TreeReport.ofTokens tokens).tree).table.definitions.map Symbol.entry =
      Neighbours.declared tokens := by
  rw [(Grammar.isProgram_ofTokens tokens).definitions_entry, Neighbours.declared_eq]
  refine (Grammar.flatMap_places_eq valid ?_ (fun _ _ => Place.Makes.entries) ?_ ?_).symm
  · intro place idle
    refine if_neg fun name => ?_
    simp [Token.isCarrier_of_plain name] at idle
  · intro node root
    simp [Node.entry?, root, NodeKind.defines]
  · intro node operator
    simp [Node.entry?, operator, NodeKind.defines]

/-- In a program without faults, no name is taken for two things. -/
theorem length_kindsAt_le {tokens : List Token} {index : Nat} {token : Token}
    (valid : (TreeReport.ofTokens tokens).valid = true) (found : tokens[index]? = some token)
    (name : token.kind = .identifier) : (Neighbours.kindsAt tokens index).length ≤ 1 := by
  obtain ⟨node, makes⟩ := Grammar.exists_makes valid found
    (Token.isSignificant_of_kind name (by decide))
    (Token.isCarrier_of_plain name (by decide))
  rw [Neighbours.kindsAt_eq found name, makes.kinds name]
  cases node.kind.defines <;> simp

/-- In a program without faults, the scans over the tokens find the definitions that are collected
from the tree, in the same order, and take no name for two things. -/
theorem definitions_declared (tokens : List Token)
    (valid : (TreeReport.ofTokens tokens).valid = true) :
    (collectSymbols (TreeReport.ofTokens tokens).tree).table.definitions.map Symbol.entry =
        Neighbours.declared tokens ∧
      ∀ index token, tokens[index]? = some token → token.kind = .identifier →
        (Neighbours.kindsAt tokens index).length ≤ 1 :=
  ⟨definitions_eq_declared valid, fun _ _ => length_kindsAt_le valid⟩

/-- A definition over two lines, with a comment in its signature, and a variable. -/
def declaringSource : String :=
  "def f(a, # first\n b):\n  x = a\n  return f(x, b)"

theorem definitions_declared_source :
    (TreeReport.ofTokens (tokenize declaringSource)).valid = true ∧
    (collectSymbols (TreeReport.ofTokens (tokenize declaringSource)).tree).table.definitions.map
        Symbol.entry = Neighbours.declared (tokenize declaringSource) ∧
    ∀ index token, (tokenize declaringSource)[index]? = some token → token.kind = .identifier →
      (Neighbours.kindsAt (tokenize declaringSource) index).length ≤ 1 := by
  have valid : (TreeReport.ofTokens (tokenize declaringSource)).valid = true := by decide +kernel
  exact ⟨valid, definitions_declared _ valid⟩

end SnippetCheck

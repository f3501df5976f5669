import Mathlib.Data.Nat.Find
import SnippetCheck.Proofs.Check.Additions
import SnippetCheck.Proofs.Check.OnePerIndex
import SnippetCheck.Proofs.Lists
import SnippetCheck.Proofs.Symbol.LastWrite

namespace SnippetCheck

/-- A name together with the scope in which it is defined. -/
def Symbol.pair (symbol : Symbol) : String × String :=
  (symbol.name, symbol.scope)

/-- How many definitions of a kind a log holds of a pair of name and scope. -/
def definitionCount (log : List Symbol) (pair : String × String) (kind : SymbolKind) : Nat :=
  log.countP fun symbol => symbol.pair = pair ∧ symbol.kind = kind

/-- A pair of name and scope is declared more than once: by two parameters, or by a parameter and
an assignment. -/
def Collides (log : List Symbol) (pair : String × String) : Prop :=
  2 ≤ definitionCount log pair .parameter ∨
    1 ≤ definitionCount log pair .parameter ∧ 1 ≤ definitionCount log pair .assigned

instance (log : List Symbol) (pair : String × String) : Decidable (Collides log pair) :=
  inferInstanceAs (Decidable (_ ∨ _ ∧ _))

/-- The name that a warning is about. -/
def Warning.name : Warning → String
  | .undefinedName name _ => name
  | .usedBeforeAssignment name _ _ => name
  | .definedTwice name _ => name

/-- At an index of a log, a pair that collides comes up first, and no pair of the same name that
collides has come up before. -/
def CollidesFirst (log : List Symbol) (index : Nat) (warning : Warning) : Prop :=
  ∃ symbol, log[index]? = some symbol ∧ Collides log symbol.pair ∧
    (∀ earlier other, earlier < index → log[earlier]? = some other → other.name = symbol.name →
      ¬ Collides log other.pair) ∧
    warning = .definedTwice symbol.name symbol.scope

section Counts

variable {log : List Symbol} {pair : String × String} {kind : SymbolKind}

theorem definitionCount_concat (symbol : Symbol) :
    definitionCount (log ++ [symbol]) pair kind =
      definitionCount log pair kind + if symbol.pair = pair ∧ symbol.kind = kind then 1 else 0 := by
  simp [definitionCount, List.countP_append, List.countP_singleton]

theorem definitionCount_eq_zero (fresh : pair ∉ log.map Symbol.pair) :
    definitionCount log pair kind = 0 := by
  refine List.countP_eq_zero.mpr fun symbol member counted => ?_
  simp only [decide_eq_true_eq] at counted
  exact fresh (List.mem_map.mpr ⟨symbol, member, counted.1⟩)

/-- Whether a pair collides does not depend on the order of the log. -/
theorem collides_perm {other : List Symbol} (perm : other.Perm log) :
    Collides other pair ↔ Collides log pair := by
  simp only [Collides, definitionCount, perm.countP_eq]

/-- Without a parameter there is no collision, however often a name is assigned to or defined as a
function. -/
theorem not_collides_of_no_parameter
    (none : ∀ symbol ∈ log, symbol.pair = pair → symbol.kind ≠ .parameter) :
    ¬ Collides log pair := by
  have zero : definitionCount log pair .parameter = 0 :=
    List.countP_eq_zero.mpr fun symbol member => by simpa using none symbol member
  simp [Collides, zero]

theorem Collides.exists_mem (collides : Collides log pair) :
    ∃ symbol ∈ log, symbol.pair = pair := by
  by_contra fresh
  refine not_collides_of_no_parameter (fun symbol member same => ?_) collides
  exact absurd ⟨symbol, member, same⟩ fresh

end Counts

namespace Declarations

/-- What a log declares of a pair. -/
def tally (log : List Symbol) (pair : String × String) : Declarations :=
  ⟨pair.1, pair.2, definitionCount log pair .parameter, 0 < definitionCount log pair .assigned⟩

/-- A symbol more counts under its own name and scope only. -/
theorem tally_concat (log : List Symbol) (symbol : Symbol) (pair : String × String) :
    tally (log ++ [symbol]) pair =
      if symbol.pair = pair then (tally log pair).add symbol.kind else tally log pair := by
  by_cases same : symbol.pair = pair
  · cases kind : symbol.kind <;> simp [tally, definitionCount_concat, same, kind, add]
  · simp [tally, definitionCount_concat, same]

/-- A pair collides by its tally exactly if the log says so. -/
theorem collides_tally (log : List Symbol) (pair : String × String) :
    (tally log pair).collides = true ↔ Collides log pair := by
  rw [collides, decide_eq_true_eq, tally, Collides]
  by_cases assigned : 0 < definitionCount log pair .assigned
  · simp only [assigned, decide_true, Bool.toNat_true]
    omega
  · simp only [assigned, decide_false, Bool.toNat_false]
    omega

theorem tally_of_fresh {log : List Symbol} {pair : String × String}
    (fresh : pair ∉ log.map Symbol.pair) : tally log pair = ⟨pair.1, pair.2, 0, false⟩ := by
  simp [tally, definitionCount_eq_zero fresh]

/-- Counting a symbol keeps the counts of a log right, if every pair that the log holds is among
those that are counted. -/
theorem record_tally {log : List Symbol} (symbol : Symbol) {pairs : List (String × String)}
    (distinct : pairs.Nodup) (known : symbol.pair ∈ log.map Symbol.pair → symbol.pair ∈ pairs) :
    record symbol (pairs.map (tally log)) =
      (if symbol.pair ∈ pairs then pairs else pairs ++ [symbol.pair]).map
        (tally (log ++ [symbol])) := by
  induction pairs with
  | nil =>
    have fresh : symbol.pair ∉ log.map Symbol.pair := fun member => nomatch known member
    rw [if_neg List.not_mem_nil, List.nil_append, List.map_singleton, tally_concat, if_pos rfl,
      tally_of_fresh fresh]
    rfl
  | cons first rest ih =>
    obtain ⟨apart, distinct⟩ := List.nodup_cons.mp distinct
    by_cases here : first = symbol.pair
    · subst here
      have others : rest.map (tally log) = rest.map (tally (log ++ [symbol])) := by
        refine List.map_congr_left fun other member => ?_
        rw [tally_concat, if_neg fun same : symbol.pair = other => apart (same ▸ member)]
      rw [if_pos List.mem_cons_self, List.map_cons, List.map_cons, tally_concat, if_pos rfl,
        ← others]
      exact if_pos ⟨rfl, rfl⟩
    · have other : symbol.pair ≠ first := Ne.symm here
      have ih := ih distinct fun member => (List.mem_cons.mp (known member)).resolve_left other
      have skipped :
          ¬((tally log first).name = symbol.name ∧ (tally log first).scope = symbol.scope) :=
        fun same => here (Prod.ext same.1 same.2)
      rw [List.map_cons, record, if_neg skipped, ih]
      by_cases later : symbol.pair ∈ rest
      · rw [if_pos later, if_pos (List.mem_cons_of_mem _ later), List.map_cons, tally_concat,
          if_neg other]
      · rw [if_neg later, if_neg (by simp [other, later]), List.cons_append, List.map_cons,
          tally_concat, if_neg other]

/-- The groups of a log are the counts of its pairs, in the order in which these first come up. -/
theorem ofLog_eq (log : List Symbol) :
    ofLog log = (log.map Symbol.pair).eraseDups.map (tally log) := by
  induction log using List.reverseRecOn with
  | nil => rfl
  | append_singleton before last ih =>
    have grown : ofLog (before ++ [last]) = record last (ofLog before) := by
      rw [ofLog, List.foldl_append]
      rfl
    have known (member : last.pair ∈ before.map Symbol.pair) :
        last.pair ∈ (before.map Symbol.pair).eraseDups := List.mem_eraseDups.mpr member
    rw [grown, ih, record_tally last (nodup_eraseDups _) known, List.map_append,
      List.map_singleton, eraseDups_concat]
    simp only [List.mem_eraseDups]

/-- A further group adds a warning if it collides and its name has not been reported. -/
theorem collisions_concat (groups : List Declarations) (last : Declarations)
    (reported : List String) :
    collisions (groups ++ [last]) reported = collisions groups reported ++
      if last.collides = true ∧ last.name ∉ reported ∧
          ∀ group ∈ groups, group.name = last.name → group.collides = false
        then [.definedTwice last.name last.scope] else [] := by
  induction groups generalizing reported with
  | nil => simp [collisions]
  | cons first rest ih =>
    rw [List.cons_append, collisions, collisions]
    cases taken : first.collides && !reported.contains first.name with
    | true =>
      rw [if_pos rfl, if_pos rfl, ih, List.cons_append]
      congr 3
      grind
    | false =>
      rw [if_neg Bool.false_ne_true, if_neg Bool.false_ne_true, ih]
      congr 2
      grind

theorem forall_mem_take_iff {log : List Symbol} {index : Nat} {P : Symbol → Prop} :
    (∀ other ∈ log.take index, P other) ↔
      ∀ earlier other, earlier < index → log[earlier]? = some other → P other := by
  simp only [List.mem_iff_getElem?, List.getElem?_take, Option.ite_none_right_eq_some,
    forall_exists_index, and_imp]
  exact forall_comm

/-- What a log warns of at a symbol, with the symbols before it. -/
def collisionAt (log before : List Symbol) (symbol : Symbol) : Option Warning :=
  if Collides log symbol.pair ∧
      ∀ other ∈ before, other.name = symbol.name → ¬ Collides log other.pair
    then some (.definedTwice symbol.name symbol.scope) else none

/-- The groups that come up in a part of a log are warned of symbol by symbol. -/
theorem collisions_tally_concat (log before : List Symbol) (symbol : Symbol) :
    collisions (((before ++ [symbol]).map Symbol.pair).eraseDups.map (tally log)) [] =
      collisions ((before.map Symbol.pair).eraseDups.map (tally log)) [] ++
        (collisionAt log before symbol).toList := by
  rw [List.map_append, List.map_singleton, eraseDups_concat]
  by_cases known : symbol.pair ∈ before.map Symbol.pair
  · obtain ⟨other, earlier, same⟩ := List.mem_map.mp known
    have silent : collisionAt log before symbol = none := by
      refine if_neg fun first => ?_
      exact first.2 other earlier (congrArg Prod.fst same) (same ▸ first.1)
    rw [if_pos known, silent, Option.toList_none, List.append_nil]
  · have first : ((tally log symbol.pair).collides = true ∧ (tally log symbol.pair).name ∉ [] ∧
          ∀ group ∈ (before.map Symbol.pair).eraseDups.map (tally log),
            group.name = (tally log symbol.pair).name → group.collides = false) ↔
        Collides log symbol.pair ∧
          ∀ other ∈ before, other.name = symbol.name → ¬ Collides log other.pair := by
      simp only [collides_tally, List.not_mem_nil, not_false_eq_true, true_and, List.forall_mem_map,
        List.mem_eraseDups, ← Bool.not_eq_true]
      exact .rfl
    rw [if_neg known, List.map_append, List.map_singleton, collisions_concat, collisionAt]
    simp only [first]
    split <;> rfl

/-- The warnings of a log are those at its first collisions. -/
theorem collisions_ofLog (log : List Symbol) :
    OnePerIndex (CollidesFirst log) (collisions (ofLog log) []) := by
  rw [ofLog_eq]
  have scanned := OnePerIndex.of_scan
    (fun before => collisions ((before.map Symbol.pair).eraseDups.map (tally log)) [])
    (collisionAt log) rfl (collisions_tally_concat log) log
  refine scanned.congr fun index warning => exists_congr fun symbol => and_congr_right fun _ => ?_
  simp only [collisionAt, Option.ite_none_right_eq_some, Option.some.injEq, and_assoc,
    forall_mem_take_iff, eq_comm (a := warning)]

end Declarations

section Reports

variable {log : List Symbol} {index : Nat} {warning : Warning}

/-- A symbol gives rise to one warning at most. -/
theorem CollidesFirst.unique {other : Warning} (first : CollidesFirst log index warning)
    (again : CollidesFirst log index other) : other = warning := by
  obtain ⟨symbol, here, -, -, rfl⟩ := first
  obtain ⟨same, here', -, -, rfl⟩ := again
  rw [Option.some.inj (here.symm.trans here')]

/-- A collision reports the name and the scope of a pair that collides. -/
theorem CollidesFirst.exists_scope (first : CollidesFirst log index warning) :
    ∃ scope, Collides log (warning.name, scope) := by
  obtain ⟨symbol, -, collides, -, rfl⟩ := first
  exact ⟨symbol.scope, collides⟩

/-- Of two collisions that are reported at different places, the names are different. -/
theorem CollidesFirst.name_ne {later : Nat} {other : Warning} (order : index < later)
    (first : CollidesFirst log index warning) (second : CollidesFirst log later other) :
    warning.name ≠ other.name := by
  obtain ⟨symbol, here, collides, -, rfl⟩ := first
  obtain ⟨next, -, -, unreported, rfl⟩ := second
  exact fun same => unreported index symbol order here same collides

/-- A name that collides anywhere is reported where the first of its pairs that collide comes
up. -/
theorem Collides.exists_collidesFirst {name scope : String}
    (collides : Collides log (name, scope)) :
    ∃ index warning, CollidesFirst log index warning ∧ warning.name = name := by
  have somewhere : ∃ (index : Nat) (symbol : Symbol), log[index]? = some symbol ∧
      symbol.name = name ∧ Collides log symbol.pair := by
    obtain ⟨symbol, member, same⟩ := collides.exists_mem
    obtain ⟨index, here⟩ := List.getElem?_of_mem member
    exact ⟨index, symbol, here, congrArg Prod.fst same, same ▸ collides⟩
  classical
  obtain ⟨index, ⟨symbol, here, rfl, first⟩, least⟩ := Nat.findX somewhere
  refine ⟨index, _, ⟨symbol, here, first, fun earlier other order there named both => ?_, rfl⟩,
    rfl⟩
  exact least earlier order ⟨other, there, named, both⟩

end Reports

/-- What the check says of its subject. -/
theorem Subject.scopeCollision_passed (subject : Subject) :
    ∃ passed, (Check.run subject .scopeCollision).verdicts =
        [⟨"variables have correct scope (no collisions)", passed, none⟩] ∧
      (passed = true ↔ ∀ pair, ¬ Collides subject.table.definitions pair) := by
  have one := Declarations.collisions_ofLog subject.table.definitions
  refine ⟨_, rfl, ?_⟩
  rw [List.isEmpty_iff, List.eq_nil_iff_forall_not_mem]
  constructor
  · rintro silent ⟨name, scope⟩ collides
    obtain ⟨index, warning, first, -⟩ := collides.exists_collidesFirst
    obtain ⟨other, member, -⟩ := one.exists_mem first
    exact silent other member
  · intro apart warning member
    obtain ⟨index, first⟩ := one.exists_of_mem member
    obtain ⟨scope, collides⟩ := first.exists_scope
    exact apart _ collides

/-- The check on collisions passes if no pair of name and scope collides, in whatever order the
definitions stand in the log. Otherwise it warns of every name that collides once, with the scope
of its first pair that does, in the order in which these pairs first come up. -/
theorem scopeCollision_decides (subject : Subject) :
    (∃ passed, (Check.run subject .scopeCollision).verdicts =
        [⟨"variables have correct scope (no collisions)", passed, none⟩] ∧
      (passed = true ↔ ∀ pair, ¬ Collides subject.table.definitions pair)) ∧
    (∀ other : Subject, other.table.definitions.Perm subject.table.definitions →
      (Check.run other .scopeCollision).verdicts =
        (Check.run subject .scopeCollision).verdicts) ∧
    OnePerIndex (CollidesFirst subject.table.definitions)
      (Check.run subject .scopeCollision).warnings ∧
    ((Check.run subject .scopeCollision).warnings.map Warning.name).Nodup ∧
    (∀ name, name ∈ (Check.run subject .scopeCollision).warnings.map Warning.name ↔
      ∃ scope, Collides subject.table.definitions (name, scope)) ∧
    ∀ pair, (∀ symbol ∈ subject.table.definitions, symbol.pair = pair →
      symbol.kind ≠ .parameter) → ¬ Collides subject.table.definitions pair := by
  have one := Declarations.collisions_ofLog subject.table.definitions
  refine ⟨subject.scopeCollision_passed, fun other perm => ?_, one, ?_, fun name => ?_,
    fun pair none => not_collides_of_no_parameter none⟩
  · obtain ⟨here, verdict, decides⟩ := subject.scopeCollision_passed
    obtain ⟨there, verdict', decides'⟩ := other.scopeCollision_passed
    simp only [collides_perm perm] at decides'
    rw [verdict, verdict', Bool.eq_iff_iff.mpr (decides'.trans decides.symm)]
  · exact List.pairwise_map.mpr (one.pairwise fun _ _ _ _ => CollidesFirst.name_ne)
  · rw [List.mem_map]
    constructor
    · rintro ⟨warning, member, rfl⟩
      obtain ⟨index, first⟩ := one.exists_of_mem member
      exact first.exists_scope
    · rintro ⟨scope, collides⟩
      obtain ⟨index, warning, first, rfl⟩ := collides.exists_collidesFirst
      obtain ⟨other, member, again⟩ := one.exists_mem first
      exact ⟨other, member, congrArg Warning.name (first.unique again)⟩

/-- A subject whose definitions are those of a log. -/
def Subject.ofLog (log : List Symbol) : Subject :=
  ⟨[], ⟨[], log.toArray⟩, {}⟩

/-- A name that collides in two scopes and not in a third, and functions of the same name between
its definitions. -/
def collidingLog : List Symbol :=
  [⟨"n", .assigned, "global", 1⟩, ⟨"n", .assigned, "global", 2⟩, ⟨"n", .function, "global.f", 3⟩,
    ⟨"n", .parameter, "global.g", 4⟩, ⟨"k", .parameter, "global.g", 4⟩,
    ⟨"n", .parameter, "global.g", 4⟩, ⟨"n", .parameter, "global.f", 5⟩,
    ⟨"n", .assigned, "global.f", 6⟩, ⟨"k", .assigned, "global.g", 7⟩]

theorem scopeCollision_decides_reversed :
    (Subject.ofLog collidingLog.reverse).table.definitions.Perm
      (Subject.ofLog collidingLog).table.definitions ∧
    (Check.run (Subject.ofLog collidingLog.reverse) .scopeCollision).verdicts =
      (Check.run (Subject.ofLog collidingLog) .scopeCollision).verdicts ∧
    (∀ symbol ∈ (Subject.ofLog collidingLog).table.definitions, symbol.pair = ("n", "global") →
      symbol.kind ≠ .parameter) ∧
    ¬ Collides (Subject.ofLog collidingLog).table.definitions ("n", "global") ∧
    (Check.run (Subject.ofLog collidingLog) .scopeCollision).warnings =
      [.definedTwice "n" "global.f", .definedTwice "k" "global.g"] ∧
    (Check.run (Subject.ofLog collidingLog.reverse) .scopeCollision).warnings =
      [.definedTwice "k" "global.g", .definedTwice "n" "global.f"] := by
  have perm : (Subject.ofLog collidingLog.reverse).table.definitions.Perm
      (Subject.ofLog collidingLog).table.definitions := by
    simp only [Subject.ofLog, SymbolTable.definitions]
    exact List.reverse_perm _
  have assigned : ∀ symbol ∈ (Subject.ofLog collidingLog).table.definitions,
      symbol.pair = ("n", "global") → symbol.kind ≠ .parameter := by decide +kernel
  obtain ⟨-, anyOrder, -, -, -, noParameter⟩ := scopeCollision_decides (Subject.ofLog collidingLog)
  exact ⟨perm, anyOrder _ perm, assigned, noParameter _ assigned, by decide +kernel,
    by decide +kernel⟩

end SnippetCheck

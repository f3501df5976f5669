import SnippetCheck.Proofs.Structure.Nesting

namespace SnippetCheck.Brackets

/-- Brackets that are properly nested but for some opening ones between nested parts. Those are
the second list. -/
inductive Stands : List Token → List Token → Prop
  | nested {word : List Token} (nested : Nested word) : Stands word []
  | opening {before rest opened : List Token} {token : Token} (nested : Nested before)
      (isOpening : opens token = true) (behind : Stands rest opened) :
      Stands (before ++ token :: rest) (token :: opened)

/-- Brackets among which some stand open, and a closing one that fits none of these, or not the
last of them. -/
structure Stuck (before opened : List Token) (closing : Token) : Prop where
  stands : Stands before opened
  isClosing : closes closing = true
  misfit : ∀ outer innermost, opened = outer ++ [innermost] → fits innermost closing = false

section Runs

variable {word before rest opened : List Token} {token closing : Token}
  {below now : List OpenBracket}

theorem foldlM_cons_of_ok (first : step below token = .ok now) (rest : List Token) :
    (token :: rest).foldlM step below = rest.foldlM step now := by
  rw [List.foldlM_cons, first]
  rfl

theorem foldlM_append_of_ok (first : before.foldlM step below = .ok now) (rest : List Token) :
    (before ++ rest).foldlM step below = rest.foldlM step now := by
  rw [List.foldlM_append, first]
  rfl

/-- Nested brackets leave the open ones as they were. -/
theorem Nested.run (nested : Nested word) (below : List OpenBracket) :
    word.foldlM step below = .ok below := by
  induction nested generalizing below with
  | nothing => rfl
  | @pair opening closing inner rest fit _ _ ih ih' =>
    have opened := step_of_opens (opens_of_fits fit) below
    have closed := step_of_fits fit below
    rw [List.cons_append, foldlM_cons_of_ok opened, foldlM_append_of_ok (ih _),
      foldlM_cons_of_ok closed, ih']

/-- The brackets that stand open are kept, the last one on top. -/
theorem Stands.run (stands : Stands word opened) (below : List OpenBracket) :
    word.foldlM step below = .ok ((opened.map mark).reverse ++ below) := by
  induction stands generalizing below with
  | nested nested => exact nested.run below
  | @opening before rest opened token nested isOpening _ ih =>
    rw [foldlM_append_of_ok (nested.run below),
      foldlM_cons_of_ok (step_of_opens isOpening below), ih]
    simp

/-- The step sees the innermost of the brackets that stand open first. -/
theorem Stands.run_innermost {outer : List Token} {innermost : Token}
    (stands : Stands word (outer ++ [innermost])) :
    word.foldlM step [] = .ok (mark innermost :: (outer.map mark).reverse) := by
  rw [stands.run]
  simp

theorem Stands.opens_of_mem (stands : Stands word opened) (member : token ∈ opened) :
    opens token = true := by
  induction stands with
  | nested => cases member
  | opening _ isOpening _ ih =>
    rcases List.mem_cons.mp member with rfl | later
    · exact isOpening
    · exact ih later

/-- A closing bracket that nothing stands open for is the fault, whatever comes behind it. -/
theorem Stuck.run_unmatched (stuck : Stuck before [] closing) (after : List Token) :
    (before ++ closing :: after).foldlM step [] =
      .error (.unmatchedCloser closing.text closing.line) := by
  rw [foldlM_append_of_ok (stuck.stands.run []), List.foldlM_cons]
  simp only [List.map_nil, List.reverse_nil, List.nil_append, step_of_closes stuck.isClosing]
  rfl

/-- A closing bracket of another kind than the innermost opening one is the fault, whatever comes
behind it. -/
theorem Stuck.run_mismatched {outer : List Token} {innermost : Token}
    (stuck : Stuck before (outer ++ [innermost]) closing) (after : List Token) :
    (before ++ closing :: after).foldlM step [] =
      .error (.mismatchedBracket closing.text closing.line (mark innermost)) := by
  have isOpening := stuck.stands.opens_of_mem (List.mem_append_right outer (.head _))
  have misfit := stuck.misfit outer innermost rfl
  rw [foldlM_append_of_ok stuck.stands.run_innermost, List.foldlM_cons,
    step_of_not_fits isOpening stuck.isClosing misfit]
  rfl

/-- A closing bracket that does not fit is a fault, whatever stands behind it. -/
theorem Stuck.run (stuck : Stuck before opened closing) :
    ∃ fault, ∀ after, (before ++ closing :: after).foldlM step [] = .error fault := by
  rcases List.eq_nil_or_concat opened with rfl | ⟨outer, innermost, rfl⟩
  · exact ⟨_, stuck.run_unmatched⟩
  · rw [List.concat_eq_append] at stuck
    exact ⟨_, stuck.run_mismatched⟩

end Runs

section Progress

variable {word opened outer : List Token} {token innermost closing : Token}

theorem Nested.append {a b : List Token} (first : Nested a) (second : Nested b) :
    Nested (a ++ b) := by
  induction first with
  | nothing => exact second
  | pair fit between _ _ ih =>
    rw [List.append_assoc, List.cons_append]
    exact .pair fit between ih

theorem Stands.nested_of_nil (stands : Stands word []) : Nested word := by
  cases stands with
  | nested nested => exact nested

/-- An opening bracket stands open behind those that did. -/
theorem Stands.open (stands : Stands word opened) (isOpening : opens token = true) :
    Stands (word ++ [token]) (opened ++ [token]) := by
  induction stands with
  | nested nested => exact .opening nested isOpening (.nested .nothing)
  | opening nested isOpening' _ ih =>
    rw [List.append_assoc, List.cons_append]
    exact .opening nested isOpening' ih

/-- A closing bracket that fits takes the innermost of the open ones away. -/
theorem Stands.close (stands : Stands word (outer ++ [innermost]))
    (fit : fits innermost closing = true) : Stands (word ++ [closing]) outer := by
  generalize split : outer ++ [innermost] = opened at stands
  induction stands generalizing outer with
  | nested => simp at split
  | @opening before rest opened token nested isOpening behind ih =>
    rw [List.append_assoc, List.cons_append]
    cases outer with
    | nil =>
      obtain ⟨rfl, rfl⟩ := List.cons.inj split
      exact .nested (nested.append (.pair fit behind.nested_of_nil .nothing))
    | cons first outer =>
      obtain ⟨rfl, rest⟩ := List.cons.inj split
      exact .opening nested isOpening (ih rest)

/-- One bracket more is put to those that stand open, takes the last of them away, or does not
fit. -/
theorem Stands.next (stands : Stands word opened) (bracket : opens token || closes token) :
    (∃ opened', Stands (word ++ [token]) opened') ∨ Stuck word opened token := by
  rcases Bool.or_eq_true_iff.mp bracket with isOpening | isClosing
  · exact .inl ⟨_, stands.open isOpening⟩
  · by_cases fit : ∃ outer innermost, opened = outer ++ [innermost] ∧ fits innermost token = true
    · obtain ⟨outer, innermost, rfl, fit⟩ := fit
      exact .inl ⟨outer, stands.close fit⟩
    · refine .inr ⟨stands, isClosing, fun outer innermost split => ?_⟩
      rw [Bool.eq_false_iff]
      exact fun fits => fit ⟨outer, innermost, split, fits⟩

/-- Brackets up to the first closing one that does not fit, if there is one. -/
theorem stands_or_stuck (brackets : ∀ token ∈ word, opens token || closes token) :
    (∃ opened, Stands word opened) ∨
      ∃ before closing after opened, word = before ++ closing :: after ∧
        Stuck before opened closing := by
  induction word using List.reverseRecOn with
  | nil => exact .inl ⟨[], .nested .nothing⟩
  | append_singleton word token ih =>
    rcases ih fun other member => brackets other (List.mem_append_left _ member) with
      ⟨opened, stands⟩ | ⟨before, closing, after, opened, rfl, stuck⟩
    · refine (stands.next (brackets token (by simp))).imp_right fun stuck => ?_
      exact ⟨word, token, [], opened, rfl, stuck⟩
    · exact .inr ⟨before, closing, after ++ [token], opened, by simp, stuck⟩

end Progress

section Completion

variable {word before after opened : List Token} {token closing : Token}

/-- What begins a word that can be completed can be completed too. -/
theorem Completable.leading {front : List Token} (completable : Completable word)
    (leading : front <+: word) : Completable front := by
  obtain ⟨more, nested⟩ := completable
  obtain ⟨between, rfl⟩ := leading
  exact ⟨between ++ more, by rwa [← List.append_assoc]⟩

/-- Brackets that stand open can be closed, from the innermost out. -/
theorem Stands.completable (stands : Stands word opened) : Completable word := by
  induction opened using List.reverseRecOn generalizing word with
  | nil => exact ⟨[], by simpa using stands.nested_of_nil⟩
  | append_singleton outer innermost ih =>
    obtain ⟨closing, fit⟩ := exists_fits (stands.opens_of_mem (List.mem_append_right outer (.head _)))
    exact (ih (stands.close fit)).leading (List.prefix_append word [closing])

/-- Behind a closing bracket that does not fit nothing helps. -/
theorem Stuck.not_completable (stuck : Stuck before opened closing) :
    ¬ Completable (before ++ [closing]) := by
  rintro ⟨more, nested⟩
  obtain ⟨fault, fails⟩ := stuck.run
  have runs := nested.run []
  rw [List.append_assoc, List.singleton_append, fails] at runs
  cases runs

/-- What can be completed is a nested word with openings between its parts. -/
theorem Completable.stands (completable : Completable word)
    (brackets : ∀ token ∈ word, opens token || closes token) : ∃ opened, Stands word opened := by
  refine (stands_or_stuck brackets).resolve_right ?_
  rintro ⟨before, closing, after, opened, rfl, stuck⟩
  refine stuck.not_completable (completable.leading ⟨after, ?_⟩)
  rw [List.append_assoc, List.singleton_append]

theorem Nested.stands_eq_nil (nested : Nested word) (stands : Stands word opened) :
    opened = [] := by
  have same := (nested.run []).symm.trans (stands.run [])
  simpa using same

/-- No bracket behind an opening one that stands open is its partner. -/
theorem Stands.not_closedIn (stands : Stands word opened) : ¬ ClosedIn token word := by
  rintro ⟨inner, closing, rest, rfl, fit, between⟩
  have stuck : Stuck inner [] closing :=
    ⟨.nested between, closes_of_fits fit, fun outer innermost split => by simp at split⟩
  have runs := (stuck.run_unmatched rest).symm.trans (stands.run [])
  cases runs

/-- Nothing is left open by a nested word: an opening bracket of it has its partner behind it, and the
partner opens nothing. -/
theorem Nested.unclosed {rest unclosed : List Token} (nested : Nested word)
    (others : Unclosed rest unclosed) : Unclosed (word ++ rest) unclosed := by
  induction nested generalizing rest with
  | nothing => exact others
  | @pair opening closing inner behind fit between _ ih ih' =>
    have noOpening := not_opens_of_closes (closes_of_fits fit)
    rw [List.append_assoc, List.cons_append]
    refine .passed (fun _ => ⟨inner, closing, behind ++ rest, rfl, fit, between⟩) ?_
    exact ih (.passed (fun isOpening => by simp [noOpening] at isOpening) (ih' others))

theorem Stands.unclosed (stands : Stands word opened) : Unclosed word opened := by
  induction stands with
  | nested nested => simpa using nested.unclosed .nothing
  | opening nested isOpening behind ih =>
    exact nested.unclosed (.kept isOpening behind.not_closedIn ih)

/-- Which brackets are never closed is settled by the word. -/
theorem Unclosed.unique {a b : List Token} (first : Unclosed word a) (second : Unclosed word b) :
    a = b := by
  induction first generalizing b with
  | nothing => cases second; rfl
  | kept isOpening alone _ ih =>
    cases second with
    | kept _ _ others => rw [ih others]
    | passed closed _ => exact absurd (closed isOpening) alone
  | passed closed _ ih =>
    cases second with
    | kept isOpening alone _ => exact absurd (closed isOpening) alone
    | passed _ others => exact ih others

end Completion

/-- The first bracket after which nothing can be put to make all properly nested. -/
structure Breaks (before : List Token) (closing : Token) : Prop where
  viable : ∀ front, front <+: before → Completable front
  broken : ¬ Completable (before ++ [closing])

/-- What is wrong with brackets that are not properly nested, and where. -/
inductive Locates (word : List Token) : Diagnostic → Prop
  | unmatched {before after : List Token} {closing : Token}
      (split : word = before ++ closing :: after) (breaks : Breaks before closing)
      (nested : Nested before) :
      Locates word (.unmatchedCloser closing.text closing.line)
  | mismatched {before after outer : List Token} {closing innermost : Token}
      (split : word = before ++ closing :: after) (breaks : Breaks before closing)
      (unnested : ¬ Nested before) (unclosed : Unclosed before (outer ++ [innermost])) :
      Locates word (.mismatchedBracket closing.text closing.line (mark innermost))
  | unclosed {outermost : Token} {inner : List Token}
      (viable : ∀ front, front <+: word → Completable front)
      (unclosed : Unclosed word (outermost :: inner)) :
      Locates word (.unclosedBrackets (mark outermost) (inner.map mark))

section Faults

variable {before opened : List Token} {closing : Token}

theorem Stuck.breaks (stuck : Stuck before opened closing) : Breaks before closing :=
  ⟨fun _ leading => stuck.stands.completable.leading leading, stuck.not_completable⟩

/-- Where a bracket breaks the nesting, the brackets before it stand and it does not fit. -/
theorem Breaks.stuck (breaks : Breaks before closing)
    (brackets : ∀ token ∈ before ++ [closing], opens token || closes token) :
    ∃ opened, Stuck before opened closing := by
  have completable := breaks.viable before (List.prefix_refl before)
  obtain ⟨opened, stands⟩ := completable.stands fun token member =>
    brackets token (List.mem_append_left _ member)
  refine ⟨opened, (stands.next (brackets closing (by simp))).resolve_left ?_⟩
  exact fun ⟨_, stands⟩ => breaks.broken stands.completable

end Faults

theorem among_brackets (tokens : List Token) :
    ∀ token ∈ among tokens, opens token || closes token :=
  fun _ member => (List.mem_filter.mp member).2

theorem check_of_error {tokens : List Token} {fault : Diagnostic}
    (fails : (among tokens).foldlM step [] = .error fault) : check tokens = [fault] := by
  rw [foldlM_among] at fails
  rw [check, fails]

/-- Where no bracket breaks the nesting, those that stand open are the fault. -/
theorem check_of_stands {tokens opened : List Token} (stands : Stands (among tokens) opened) :
    check tokens = leftOpen (opened.map mark).reverse := by
  have runs := stands.run []
  rw [foldlM_among, List.append_nil] at runs
  rw [check, runs]

section Verdict

variable {tokens : List Token} {fault : Diagnostic}

/-- The brackets of a list are nested and give no fault, or there is one fault, and it is told
what and where it is. -/
theorem check_cases (tokens : List Token) :
    (Nested (among tokens) ∧ check tokens = []) ∨
      ∃ fault, Locates (among tokens) fault ∧ check tokens = [fault] := by
  rcases stands_or_stuck (among_brackets tokens) with
    ⟨opened, stands⟩ | ⟨before, closing, after, opened, split, stuck⟩
  · have checked := check_of_stands stands
    cases opened with
    | nil => exact .inl ⟨stands.nested_of_nil, checked⟩
    | cons outermost inner =>
      have viable := fun front (leading : front <+: among tokens) =>
        stands.completable.leading leading
      refine .inr ⟨_, .unclosed viable stands.unclosed, ?_⟩
      rw [checked, leftOpen, List.reverse_reverse]
      rfl
  · rcases List.eq_nil_or_concat opened with rfl | ⟨outer, innermost, rfl⟩
    · refine .inr ⟨_, .unmatched split stuck.breaks stuck.stands.nested_of_nil,
        check_of_error ?_⟩
      rw [split, stuck.run_unmatched]
    · rw [List.concat_eq_append] at stuck
      have unnested : ¬ Nested before := fun nested => by
        simpa using nested.stands_eq_nil stuck.stands
      refine .inr ⟨_, .mismatched split stuck.breaks unnested stuck.stands.unclosed,
        check_of_error ?_⟩
      rw [split, stuck.run_mismatched]

theorem Breaks.stuck_of_among {before after : List Token} {closing : Token}
    (breaks : Breaks before closing) (split : among tokens = before ++ closing :: after) :
    ∃ opened, Stuck before opened closing := by
  refine breaks.stuck fun token member => among_brackets tokens token ?_
  rw [split, List.append_cons]
  exact List.mem_append_left _ member

/-- The fault that is located is the one that is found. -/
theorem Locates.check_eq (located : Locates (among tokens) fault) : check tokens = [fault] := by
  cases located with
  | unmatched split breaks nested =>
    obtain ⟨opened, stuck⟩ := breaks.stuck_of_among split
    obtain rfl := nested.stands_eq_nil stuck.stands
    exact check_of_error (by rw [split, stuck.run_unmatched])
  | mismatched split breaks unnested unclosed =>
    obtain ⟨opened, stuck⟩ := breaks.stuck_of_among split
    obtain rfl := stuck.stands.unclosed.unique unclosed
    exact check_of_error (by rw [split, stuck.run_mismatched])
  | unclosed viable unclosed =>
    have completable := viable _ (List.prefix_refl _)
    obtain ⟨opened, stands⟩ := completable.stands (among_brackets tokens)
    obtain rfl := stands.unclosed.unique unclosed
    rw [check_of_stands stands, leftOpen, List.reverse_reverse]
    rfl

theorem check_of_nested (nested : Nested (among tokens)) : check tokens = [] :=
  check_of_stands (.nested nested)

/-- A bracket as it is named in the text of a fault. -/
def place (token : Token) : String :=
  s!"'{token.text}' at line {token.line.toNat}"

theorem describe_comp_mark : OpenBracket.describe ∘ mark = place :=
  rfl

theorem message_unclosedBrackets (outermost : Token) (inner : List Token) :
    (Diagnostic.unclosedBrackets (mark outermost) (inner.map mark)).message =
      "unclosed brackets: " ++ ", ".intercalate ((outermost :: inner).map place) := by
  rw [← describe_comp_mark, ← List.map_map, List.map_cons]
  rfl

/-- The check finds nothing exactly if the brackets are properly nested. Otherwise it gives one
fault and places it: at the first closing bracket after which nothing can be mended any more, or,
if there is none, at the brackets that are left without a partner. -/
theorem check_locates (tokens : List Token) :
    (check tokens = [] ↔ Nested (among tokens)) ∧
    (¬ Nested (among tokens) → ∃ fault, check tokens = [fault]) ∧
    (∀ fault, check tokens = [fault] ↔ Locates (among tokens) fault) ∧
    ∀ outermost inner, Completable (among tokens) →
      Unclosed (among tokens) (outermost :: inner) → ∃ fault, check tokens = [fault] ∧
        fault.line = some outermost.line ∧
        fault.message =
          "unclosed brackets: " ++ ", ".intercalate ((outermost :: inner).map place) := by
  refine ⟨⟨fun silent => ?_, check_of_nested⟩, fun unnested => ?_,
    fun fault => ⟨fun found => ?_, Locates.check_eq⟩, fun outermost inner completable unclosed => ?_⟩
  · rcases check_cases tokens with ⟨nested, -⟩ | ⟨fault, -, found⟩
    · exact nested
    · rw [silent] at found
      cases found
  · rcases check_cases tokens with ⟨nested, -⟩ | ⟨fault, -, found⟩
    · exact absurd nested unnested
    · exact ⟨fault, found⟩
  · rcases check_cases tokens with ⟨-, silent⟩ | ⟨other, located, found'⟩
    · rw [silent] at found
      cases found
    · obtain rfl := List.singleton_inj.mp (found.symm.trans found')
      exact located
  · have located := Locates.unclosed (fun _ leading => completable.leading leading) unclosed
    exact ⟨_, located.check_eq, rfl, message_unclosedBrackets outermost inner⟩

/-- Two brackets that nothing closes, on two lines. -/
def openTokens : List Token :=
  [⟨.identifier, "f", 1, 1⟩, ⟨.symbol, "(", 1, 2⟩, ⟨.newline, "\n", 1, 3⟩, ⟨.symbol, "[", 2, 1⟩]

theorem check_locates_open :
    ¬ Nested (among openTokens) ∧ Completable (among openTokens) ∧
    Unclosed (among openTokens) [⟨.symbol, "(", 1, 2⟩, ⟨.symbol, "[", 2, 1⟩] ∧
    ∃ fault, check openTokens = [fault] ∧ fault.line = some 1 ∧
      fault.message = "unclosed brackets: '(' at line 1, '[' at line 2" := by
  have stands : Stands (among openTokens) [⟨.symbol, "(", 1, 2⟩, ⟨.symbol, "[", 2, 1⟩] :=
    .opening .nothing (by decide) (.opening .nothing (by decide) (.nested .nothing))
  have unnested : ¬ Nested (among openTokens) := fun nested => by
    cases nested.stands_eq_nil stands
  obtain ⟨-, -, -, told⟩ := check_locates openTokens
  obtain ⟨fault, found, line, message⟩ := told _ _ stands.completable stands.unclosed
  exact ⟨unnested, stands.completable, stands.unclosed, fault, found, line,
    message.trans (by decide +kernel)⟩

end Verdict

end SnippetCheck.Brackets

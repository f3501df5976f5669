import Mathlib.Data.Bool.AllAny
import SnippetCheck.Proofs.Token.Partition

namespace SnippetCheck

theorem isReserved_iff {word : String} : isReserved word = true ↔ word ∈ reservedWords :=
  List.contains_iff_mem

namespace Lexeme

/-- The spelling is the longest prefix of a text in a class of spellings. -/
structure Longest (Spelled : List Char → Prop) (spelling text : List Char) : Prop where
  begins : spelling <+: text
  spelled : Spelled spelling
  longest : ∀ other, other <+: text → Spelled other → other.length ≤ spelling.length

/-- A letter or an underscore, and then letters, digits of any script and underscores. -/
def IsWord (spelling : List Char) : Prop :=
  ∃ c tail, spelling = c :: tail ∧ isWordStart c = true ∧ ∀ d ∈ tail, isWordPart d = true

def IsDigits (cs : List Char) : Prop :=
  ∀ c ∈ cs, c.isDigit = true

/-- Digits, and perhaps a point behind them with more digits or none. -/
inductive IsNumber : List Char → Prop
  | whole {digits : List Char} : digits ≠ [] → IsDigits digits → IsNumber digits
  | point {digits fraction : List Char} : digits ≠ [] → IsDigits digits → IsDigits fraction →
      IsNumber (digits ++ '.' :: fraction)

def operators : List (List Char) :=
  ["+", "-", "*", "/", "%", "=", "+=", "-=", "*=", "/=", "%=", "**", "**=", "//", "//=", "==",
    "!=", "<", ">", "<=", ">=", "<<", ">>", "&", "|", "^", "~"].map String.toList

def IsComment (spelling : List Char) : Prop :=
  ∃ body, spelling = '#' :: body ∧ '\n' ∉ body

/-- Characters among which the quote does not stand on its own: one by one they are others, or a
backslash and the character that it shields. -/
inductive Shielded (quote : Char) : List Char → Prop
  | nil : Shielded quote []
  | other {c : Char} {cs : List Char} : c ≠ quote → c ≠ '\\' → Shielded quote cs →
      Shielded quote (c :: cs)
  | pair {c : Char} {cs : List Char} : Shielded quote cs → Shielded quote ('\\' :: c :: cs)

/-- The same, but the text may also end in a backslash with nothing to shield. -/
def Unclosed (quote : Char) (content : List Char) : Prop :=
  Shielded quote content ∨ ∃ front, Shielded quote front ∧ content = front ++ ['\\']

/-- The lexical grammar: the lexemes that a text can begin with. -/
inductive Munches : List Char → Lexeme → Prop
  | newline {rest : List Char} : Munches ('\n' :: rest) (plain .newline ['\n'])
  | comment {spelling text : List Char} : Longest IsComment spelling text →
      Munches text (plain .comment spelling)
  | keyword {word text : List Char} : Longest IsWord word text →
      String.ofList word ∈ reservedWords → Munches text (plain .keyword word)
  | name {word text : List Char} : Longest IsWord word text →
      String.ofList word ∉ reservedWords → Munches text (plain .identifier word)
  | number {spelling text : List Char} : Longest IsNumber spelling text →
      Munches text (plain .number spelling)
  | literal {quote : Char} {content rest : List Char} : IsQuote quote → Shielded quote content →
      Munches (quote :: (content ++ quote :: rest))
        ⟨.string, content, quote :: (content ++ [quote])⟩
  | openLiteral {quote : Char} {content : List Char} : IsQuote quote → Unclosed quote content →
      Munches (quote :: content) ⟨.string, content, quote :: content⟩
  | symbol {mark : Char} {rest : List Char} : isPunctuation mark = true →
      Munches (mark :: rest) (plain .symbol [mark])
  | operator {spelling text : List Char} : Longest (· ∈ operators) spelling text →
      Munches text (plain .operator spelling)

/-- The lexeme at the head of a text: one of the grammar, or else an error of one character. -/
inductive Begins : List Char → Lexeme → Prop
  | munch {text : List Char} {lexeme : Lexeme} : Munches text lexeme → Begins text lexeme
  | error {c : Char} {rest : List Char} : (∀ lexeme, ¬Munches (c :: rest) lexeme) →
      Begins (c :: rest) (plain .error [c])

section Longest

variable {Spelled Other : List Char → Prop} {spelling spelling' text : List Char} {c : Char}

/-- There is one longest beginning at most: of two, neither is longer than the other. -/
theorem Longest.unique (first : Longest Spelled spelling text)
    (second : Longest Spelled spelling' text) : spelling = spelling' := by
  refine (List.prefix_of_prefix_length_le first.begins second.begins ?_).eq_of_length_le ?_
  · exact second.longest _ first.begins first.spelled
  · exact first.longest _ second.begins second.spelled

theorem Longest.congr (longest : Longest Spelled spelling text)
    (same : ∀ cs, Spelled cs ↔ Other cs) : Longest Other spelling text := by
  obtain rfl : Spelled = Other := funext fun cs => propext (same cs)
  exact longest

/-- A longest beginning goes on from the character before it, if what is spelled may begin with
that. -/
theorem Longest.cons (longest : Longest (fun tail => Spelled (c :: tail)) spelling text) :
    Longest Spelled (c :: spelling) (c :: text) := by
  refine ⟨(List.cons_prefix_cons).mpr ⟨rfl, longest.begins⟩, longest.spelled, ?_⟩
  rintro (_ | ⟨d, other⟩) begins spelled
  · exact Nat.zero_le _
  · obtain ⟨rfl, behind⟩ := List.cons_prefix_cons.mp begins
    exact Nat.succ_le_succ (longest.longest other behind spelled)

/-- A run of characters is the longest beginning made up of such characters. -/
theorem longest_run (p : Char → Bool) (text : List Char) :
    Longest (fun cs => ∀ c ∈ cs, p c = true) (run p text).1 text := by
  refine ⟨List.takeWhile_prefix p, fun c => List.mem_takeWhile_imp, ?_⟩
  rintro other ⟨rest, rfl⟩ all
  rw [run, List.takeWhile_append_of_pos all, List.length_append]
  exact Nat.le_add_right _ _

end Longest

theorem longest_word {c : Char} (start : isWordStart c = true) (cs : List Char) :
    Longest IsWord (c :: (run isWordPart cs).1) (c :: cs) :=
  ((longest_run isWordPart cs).congr fun tail => by simp [IsWord, start]).cons

theorem longest_comment (cs : List Char) :
    Longest IsComment ('#' :: (run (· != '\n') cs).1) ('#' :: cs) := by
  refine ((longest_run (· != '\n') cs).congr fun tail => ?_).cons
  simp only [IsComment, List.cons.injEq, true_and, exists_eq_left', bne_iff_ne]
  exact ⟨fun all member => all _ member rfl, fun none d member same => none (same ▸ member)⟩

/-- The point ends the first run of digits, so a number with a fraction has that run before it. -/
theorem longest_number {c : Char} (digit : c.isDigit = true) (cs : List Char) :
    Longest IsNumber (number (c :: cs)).1 (c :: cs) := by
  have digits (text : List Char) := longest_run Char.isDigit text
  have nonempty : (run Char.isDigit (c :: cs)).1 ≠ [] := by simp [run, digit]
  generalize c :: cs = text at *
  refine ⟨⟨_, number_append text⟩, ?_, ?_⟩
  · simp only [number]
    split
    · exact .point nonempty (digits _).spelled (digits _).spelled
    · exact .whole nonempty (digits _).spelled
  rintro other ⟨rest, rfl⟩ (⟨-, all⟩ | @⟨front, fraction, -, all, all'⟩)
  · have bound := (digits (other ++ rest)).longest other (List.prefix_append _ _) all
    simp only [number]
    split
    · simp only [List.length_append]
      omega
    · exact bound
  · have ends : run Char.isDigit (front ++ '.' :: fraction ++ rest) =
        (front, '.' :: (fraction ++ rest)) := by
      simp [run, List.takeWhile_append_of_pos all, List.dropWhile_append_of_pos all]
    have bound := (digits (fraction ++ rest)).longest fraction (List.prefix_append _ _) all'
    simp only [number, ends, List.length_append, List.length_cons]
    omega

section Operators

/-- What may follow the first character of an operator. -/
def operatorTails (c : Char) : List (List Char) :=
  (operators.filter (·.head? = some c)).map List.tail

theorem cons_mem_operators {c : Char} {tail : List Char} :
    c :: tail ∈ operators ↔ tail ∈ operatorTails c := by
  simp only [operatorTails, List.mem_map, List.mem_filter, decide_eq_true_eq]
  constructor
  · exact fun member => ⟨c :: tail, ⟨member, rfl⟩, rfl⟩
  · rintro ⟨_ | ⟨d, rest⟩, ⟨member, head⟩, rfl⟩
    · cases head
    · obtain rfl : d = c := by simpa using head
      exact member

/-- Among a list of spellings, the longest that begins the text. -/
theorem longest_mem_iff {spellings : List (List Char)} {spelling text : List Char} :
    Longest (· ∈ spellings) spelling text ↔
      spelling <+: text ∧ spelling ∈ spellings ∧
        ∀ other ∈ spellings, other <+: text → other.length ≤ spelling.length :=
  ⟨fun longest => ⟨longest.begins, longest.spelled, fun _ member begins =>
    longest.longest _ begins member⟩, fun ⟨begins, member, longest⟩ =>
    ⟨begins, member, fun other begins member => longest other member begins⟩⟩

theorem accept_self (c : Char) (cs : List Char) : accept c (c :: cs) = ([c], cs) := by
  simp [accept]

theorem accept_of_ne {c d : Char} (other : c ≠ d) (cs : List Char) :
    accept c (d :: cs) = ([], d :: cs) := by
  simp [accept, other.symm]

theorem longest_accept (c : Char) (cs : List Char) :
    Longest (· ∈ [[], [c]]) (accept c cs).1 cs := by
  rw [longest_mem_iff]
  cases cs with
  | nil => simp [accept]
  | cons d rest =>
    by_cases same : c = d
    · subst same
      simp [accept_self]
    · simp [accept_of_ne same, same]

/-- The longest of a sign, an equals sign, both or neither. -/
theorem longest_double {c : Char} (other : c ≠ '=') (cs : List Char) :
    Longest (· ∈ [[], ['='], [c], [c, '=']])
      ((accept c cs).1 ++ (accept '=' (accept c cs).2).1) cs := by
  rw [longest_mem_iff]
  rcases cs with _ | ⟨d, rest⟩
  · simp [accept]
  by_cases same : c = d
  · subst same
    obtain ⟨begins, member, longest⟩ := longest_mem_iff.mp (longest_accept '=' rest)
    rw [accept_self]
    simp_all [other.symm]
  · rw [accept_of_ne same]
    by_cases equals : '=' = d
    · subst equals
      simp [accept_self, same]
    · simp [accept_of_ne equals, equals, same]

/-- The longest of a sign, an equals sign or neither, of which both are no prefix at once. -/
theorem longest_either (c : Char) (cs : List Char) :
    Longest (· ∈ [[], ['='], [c]])
      (if (accept '=' cs).1.isEmpty then accept c cs else accept '=' cs).1 cs := by
  rw [longest_mem_iff]
  rcases cs with _ | ⟨d, rest⟩
  · simp [accept]
  by_cases equals : '=' = d
  · subst equals
    by_cases same : c = '=' <;> simp [accept_self, same]
  · by_cases same : c = d
    · subst same
      simp [accept_of_ne equals, accept_self]
    · simp [accept_of_ne equals, accept_of_ne same, equals, same]

/-- What is read behind the first character of an operator is the longest that may follow it. -/
theorem longest_operatorTail {c : Char} {cs : List Char} {tail : List Char × List Char}
    (found : operatorTail c cs = some tail) : Longest (· ∈ operatorTails c) tail.1 cs := by
  unfold operatorTail at found
  split at found
  · next sign =>
    have tails : ∀ c ∈ ['+', '-', '%', '='], operatorTails c = [[], ['=']] :=
      List.all_iff_forall_prop.mp (by decide)
    rw [tails c (by simpa using sign), ← Option.some.inj found]
    exact longest_accept _ _
  split at found
  · next sign =>
    have tails : ∀ c ∈ ['*', '/'], c ≠ '=' ∧ operatorTails c = [[], ['='], [c], [c, '=']] :=
      List.all_iff_forall_prop.mp (by decide)
    obtain ⟨other, tails⟩ := tails c (by simpa using sign)
    rw [tails, ← Option.some.inj found]
    exact longest_double other _
  split at found
  · next sign =>
    have tails : ∀ c ∈ ['<', '>'], operatorTails c = [[], ['='], [c]] :=
      List.all_iff_forall_prop.mp (by decide)
    rw [tails c (by simpa using sign), ← Option.some.inj found]
    exact longest_either _ _
  split at found
  · next sign =>
    subst sign
    dsimp only at found
    split at found
    · cases found
    · next equals =>
      have tails : operatorTails '!' = [['=']] := by decide
      obtain ⟨begins, member, -⟩ := longest_mem_iff.mp (longest_accept '=' cs)
      have one : (accept '=' cs).1 = ['='] := by simp_all
      rw [tails, ← Option.some.inj found]
      exact longest_mem_iff.mpr ⟨begins, by simp [one], by simp [one]⟩
  split at found
  · next sign =>
    have tails : ∀ c ∈ ['&', '|', '^', '~'], operatorTails c = [[]] :=
      List.all_iff_forall_prop.mp (by decide)
    rw [tails c (by simpa using sign), ← Option.some.inj found]
    exact longest_mem_iff.mpr ⟨List.nil_prefix, by simp, by simp⟩
  · cases found

/-- What is read as an operator is the longest operator that begins the text. -/
theorem longest_operator {c : Char} {cs : List Char} {tail : List Char × List Char}
    (found : operatorTail c cs = some tail) : Longest (· ∈ operators) (c :: tail.1) (c :: cs) :=
  ((longest_operatorTail found).congr fun _ => cons_mem_operators.symm).cons

/-- The characters at which an operator can begin. -/
def operatorStarts : List Char :=
  ['!', '+', '-', '%', '=', '*', '/', '<', '>', '&', '|', '^', '~']

/-- The operators are told by their first characters. -/
theorem mem_operatorStarts {c : Char} {tail : List Char} (member : c :: tail ∈ operators) :
    c ∈ operatorStarts := by
  have starts : ∀ operator ∈ operators, operator.head?.all (· ∈ operatorStarts) = true := by decide
  simpa using starts _ member

/-- Every operator is read where it stands. An exclamation mark alone is none, so there the rest of
the operator decides. -/
theorem operatorTail_of_mem {c : Char} {tail : List Char} {cs : List Char}
    (member : tail ∈ operatorTails c) (begins : tail <+: cs) :
    (operatorTail c cs).isSome = true := by
  have start := mem_operatorStarts (cons_mem_operators.mpr member)
  simp only [operatorStarts, List.mem_cons, List.not_mem_nil, or_false] at start
  rcases start with rfl | start
  · have tails : operatorTails '!' = [['=']] := by decide
    obtain rfl : tail = ['='] := by simpa [tails] using member
    obtain ⟨rest, rfl⟩ := begins
    rfl
  · rcases start with rfl | rfl | rfl | rfl | rfl | rfl | rfl | rfl | rfl | rfl | rfl | rfl <;> rfl

end Operators

section Literals

variable {quote : Char} {content rest : List Char}

theorem untilQuote_self (quote : Char) (cs : List Char) :
    untilQuote quote (quote :: cs) = ([], quote :: cs) := by
  rw [untilQuote.eq_def]
  simp

theorem untilQuote_other {c : Char} (notQuote : c ≠ quote) (plain : c ≠ '\\') (cs : List Char) :
    untilQuote quote (c :: cs) = (c :: (untilQuote quote cs).1, (untilQuote quote cs).2) := by
  rw [untilQuote.eq_def]
  simp [notQuote, plain]

/-- A backslash and the character behind it are passed over together, a quote or not. -/
theorem untilQuote_pair (isQuote : IsQuote quote) (c : Char) (cs : List Char) :
    untilQuote quote ('\\' :: c :: cs) =
      ('\\' :: c :: (untilQuote quote cs).1, (untilQuote quote cs).2) := by
  rcases isQuote with rfl | rfl <;> simp [untilQuote]

theorem untilQuote_last (isQuote : IsQuote quote) :
    untilQuote quote ['\\'] = (['\\'], []) := by
  rcases isQuote with rfl | rfl <;> simp [untilQuote]

/-- The search passes over whatever is shielded. -/
theorem untilQuote_shielded_append (isQuote : IsQuote quote) (shielded : Shielded quote content)
    (rest : List Char) : untilQuote quote (content ++ rest) =
      (content ++ (untilQuote quote rest).1, (untilQuote quote rest).2) := by
  induction shielded with
  | nil => rfl
  | other notQuote plain _ ih => rw [List.cons_append, untilQuote_other notQuote plain, ih]; rfl
  | pair _ ih => rw [List.cons_append, List.cons_append, untilQuote_pair isQuote, ih]; rfl

/-- The search ends at the first quote that no backslash stands before. -/
theorem untilQuote_of_shielded (isQuote : IsQuote quote) (shielded : Shielded quote content) :
    untilQuote quote (content ++ quote :: rest) = (content, quote :: rest) := by
  rw [untilQuote_shielded_append isQuote shielded, untilQuote_self, List.append_nil]

/-- Where no quote closes the literal, all that is left belongs to it. -/
theorem untilQuote_of_unclosed (isQuote : IsQuote quote) (unclosed : Unclosed quote content) :
    untilQuote quote content = (content, []) := by
  rcases unclosed with shielded | ⟨front, shielded, rfl⟩
  · simpa [untilQuote] using untilQuote_shielded_append isQuote shielded []
  · rw [untilQuote_shielded_append isQuote shielded, untilQuote_last isQuote]

/-- The search for the closing quote ends at it or, where there is none, with the text. Whatever the
rest of the search finds, what stands in front of it is shielded. -/
theorem untilQuote_cases (quote : Char) (cs : List Char) :
    (∃ more, (untilQuote quote cs).2 = quote :: more ∧ Shielded quote (untilQuote quote cs).1) ∨
      (untilQuote quote cs).2 = [] ∧ Unclosed quote (untilQuote quote cs).1 := by
  have behind {front content after : List Char}
      (step : ∀ cs, Shielded quote cs → Shielded quote (front ++ cs))
      (found : (∃ more, after = quote :: more ∧ Shielded quote content) ∨
        after = [] ∧ Unclosed quote content) :
      (∃ more, after = quote :: more ∧ Shielded quote (front ++ content)) ∨
        after = [] ∧ Unclosed quote (front ++ content) := by
    rcases found with ⟨more, closed, shielded⟩ | ⟨ended, shielded | ⟨back, shielded, rfl⟩⟩
    · exact .inl ⟨more, closed, step _ shielded⟩
    · exact .inr ⟨ended, .inl (step _ shielded)⟩
    · exact .inr ⟨ended, .inr ⟨front ++ back, step _ shielded, by rw [List.append_assoc]⟩⟩
  fun_induction untilQuote quote cs with
  | case1 => exact .inr ⟨rfl, .inl .nil⟩
  | case2 => exact .inl ⟨_, rfl, .nil⟩
  | case3 => exact .inr ⟨rfl, .inr ⟨[], .nil, rfl⟩⟩
  | case4 c cs _ _ ih => exact @behind [_, _] _ _ (fun _ => .pair) ih
  | case5 c cs notQuote plain _ ih => exact @behind [_] _ _ (fun _ => .other notQuote plain) ih

end Literals

section Read

variable {c : Char} {spelling text : List Char}

/-- The digits are the ten of ASCII. -/
theorem mem_digits (digit : c.isDigit = true) : c ∈ "0123456789".toList := by
  have digits : ∀ code < 58, 48 ≤ code → Char.ofNat code ∈ "0123456789".toList := by decide
  simp only [Char.isDigit, Bool.and_eq_true, decide_eq_true_eq] at digit
  rw [← Char.ofNat_toNat c]
  exact digits _ (Nat.lt_succ_of_le digit.2) digit.1

theorem read_of_isWordStart (start : isWordStart c = true) (cs : List Char) :
    read c cs = (plain (if isReserved (String.ofList (c :: (run isWordPart cs).1)) then .keyword
      else .identifier) (c :: (run isWordPart cs).1), (run isWordPart cs).2) := by
  have notFeed : c ≠ '\n' := by rintro rfl; cases start
  have notHash : c ≠ '#' := by rintro rfl; cases start
  rw [read, if_neg notFeed, if_neg notHash, if_pos start]

theorem read_of_isDigit (digit : c.isDigit = true) (cs : List Char) :
    read c cs = (plain .number (number (c :: cs)).1, (number (c :: cs)).2) := by
  have same : ∀ d ∈ "0123456789".toList, d ≠ '\n' ∧ d ≠ '#' ∧ isWordStart d ≠ true :=
    List.all_iff_forall_prop.mp (by decide +kernel)
  obtain ⟨notFeed, notHash, notStart⟩ := same c (mem_digits digit)
  rw [read, if_neg notFeed, if_neg notHash, if_neg notStart, if_pos digit]

theorem read_of_isQuote (isQuote : IsQuote c) (cs : List Char) : read c cs = literal c cs := by
  rcases isQuote with rfl | rfl <;> rfl

theorem read_of_isPunctuation (mark : isPunctuation c = true) (cs : List Char) :
    read c cs = (plain .symbol [c], cs) := by
  simp only [isPunctuation, List.contains_iff_mem, List.mem_cons, List.not_mem_nil, or_false]
    at mark
  rcases mark with rfl | rfl | rfl | rfl | rfl | rfl | rfl | rfl | rfl | rfl <;> rfl

/-- The longest word at the head of a text is the run of word characters there. -/
theorem Longest.word (longest : Longest IsWord spelling text) :
    ∃ c cs, text = c :: cs ∧ isWordStart c = true ∧ spelling = c :: (run isWordPart cs).1 := by
  obtain ⟨c, tail, rfl, start, -⟩ := longest.spelled
  obtain ⟨rest, rfl⟩ := longest.begins
  exact ⟨c, tail ++ rest, rfl, start, longest.unique (longest_word start _)⟩

theorem IsNumber.starts (isNumber : IsNumber spelling) :
    ∃ c tail, spelling = c :: tail ∧ c.isDigit = true := by
  rcases isNumber with ⟨nonempty, all⟩ | ⟨nonempty, all, -⟩
  · obtain ⟨c, tail, rfl⟩ := List.exists_cons_of_ne_nil nonempty
    exact ⟨c, tail, rfl, all c List.mem_cons_self⟩
  · obtain ⟨c, tail, rfl⟩ := List.exists_cons_of_ne_nil nonempty
    exact ⟨c, _, rfl, all c List.mem_cons_self⟩

/-- The longest number at the head of a text is the one that is read there. -/
theorem Longest.digits (longest : Longest IsNumber spelling text) :
    ∃ c cs, text = c :: cs ∧ c.isDigit = true ∧ spelling = (number (c :: cs)).1 := by
  obtain ⟨c, tail, rfl, digit⟩ := longest.spelled.starts
  obtain ⟨rest, rfl⟩ := longest.begins
  exact ⟨c, tail ++ rest, rfl, digit, longest.unique (longest_number digit _)⟩

/-- The longest operator at the head of a text is the one that is read there. -/
theorem Longest.sign (longest : Longest (· ∈ operators) spelling text) :
    ∃ c cs tail, text = c :: cs ∧ operatorTail c cs = some tail ∧ spelling = c :: tail.1 := by
  have nonempty : [] ∉ operators := by decide
  obtain ⟨c, operator, rfl⟩ := List.exists_cons_of_ne_nil
    fun none : spelling = [] => nonempty (none ▸ longest.spelled)
  obtain ⟨rest, rfl⟩ := longest.begins
  have read := operatorTail_of_mem (cons_mem_operators.mp longest.spelled)
    (List.prefix_append operator rest)
  obtain ⟨tail, found⟩ := Option.isSome_iff_exists.mp read
  exact ⟨c, operator ++ rest, tail, rfl, found, longest.unique (longest_operator found)⟩

theorem read_of_operatorTail {c : Char} {cs : List Char} {tail : List Char × List Char}
    (found : operatorTail c cs = some tail) :
    read c cs = (plain .operator (c :: tail.1), tail.2) := by
  have others : ∀ d ∈ operatorStarts, d ≠ '\n' ∧ d ≠ '#' ∧ isWordStart d ≠ true ∧
      d.isDigit ≠ true ∧ ¬(d = '"' ∨ d = '\'') ∧ isPunctuation d ≠ true :=
    List.all_iff_forall_prop.mp (by decide +kernel)
  obtain ⟨notFeed, notHash, notStart, notDigit, notQuote, notMark⟩ :=
    others c (mem_operatorStarts (longest_operator found).spelled)
  rw [read, if_neg notFeed, if_neg notHash, if_neg notStart, if_neg notDigit, if_neg notQuote,
    if_neg notMark, found]

/-- What the grammar finds at the head of a text is what is read there. -/
theorem read_of_munches {lexeme : Lexeme} (munches : Munches text lexeme) :
    ∃ c cs, text = c :: cs ∧ (read c cs).1 = lexeme := by
  cases munches with
  | newline => exact ⟨_, _, rfl, rfl⟩
  | comment longest =>
    obtain ⟨body, rfl, -⟩ := longest.spelled
    obtain ⟨rest, rfl⟩ := longest.begins
    exact ⟨_, _, rfl, congrArg (plain .comment) ((longest_comment _).unique longest)⟩
  | keyword longest reserved =>
    obtain ⟨c, cs, rfl, start, rfl⟩ := longest.word
    exact ⟨c, cs, rfl, by rw [read_of_isWordStart start, if_pos (isReserved_iff.mpr reserved)]⟩
  | name longest free =>
    obtain ⟨c, cs, rfl, start, rfl⟩ := longest.word
    exact ⟨c, cs, rfl, by rw [read_of_isWordStart start, if_neg (mt isReserved_iff.mp free)]⟩
  | number longest =>
    obtain ⟨c, cs, rfl, digit, rfl⟩ := longest.digits
    exact ⟨c, cs, rfl, by rw [read_of_isDigit digit]⟩
  | literal isQuote shielded =>
    refine ⟨_, _, rfl, ?_⟩
    simp [read_of_isQuote isQuote, literal, untilQuote_of_shielded isQuote shielded, accept_self]
  | openLiteral isQuote unclosed =>
    refine ⟨_, _, rfl, ?_⟩
    simp [read_of_isQuote isQuote, literal, untilQuote_of_unclosed isQuote unclosed, accept]
  | symbol mark => exact ⟨_, _, rfl, by rw [read_of_isPunctuation mark]⟩
  | operator longest =>
    obtain ⟨c, cs, tail, rfl, found, rfl⟩ := longest.sign
    exact ⟨c, cs, rfl, by rw [read_of_operatorTail found]⟩

/-- A quote begins a literal, whether it is closed or not. -/
theorem munches_literal (isQuote : IsQuote c) (cs : List Char) :
    Munches (c :: cs) (literal c cs).1 := by
  have whole := untilQuote_append c cs
  rw [literal]
  rcases untilQuote_cases c cs with ⟨more, closed, shielded⟩ | ⟨ended, unclosed⟩
  · rw [closed] at whole
    nth_rewrite 1 [← whole]
    simp only [closed, accept_self]
    exact .literal isQuote shielded
  · rw [ended, List.append_nil] at whole
    nth_rewrite 1 [← whole]
    simp only [ended, accept, List.append_nil]
    exact .openLiteral isQuote unclosed

/-- What is read at the head of a text is found there by the grammar, or an error of one
character. -/
theorem munches_read (c : Char) (cs : List Char) :
    Munches (c :: cs) (read c cs).1 ∨ (read c cs).1 = plain .error [c] := by
  unfold read
  split
  · next feed => exact .inl (feed ▸ .newline)
  split
  · next hash => exact .inl (hash ▸ .comment (longest_comment cs))
  split
  · next start =>
    left
    dsimp only
    split
    · next reserved => exact .keyword (longest_word start cs) (isReserved_iff.mp reserved)
    · next free => exact .name (longest_word start cs) (mt isReserved_iff.mpr free)
  split
  · next digit => exact .inl (.number (longest_number digit cs))
  split
  · next isQuote => exact .inl (munches_literal isQuote cs)
  split
  · next mark => exact .inl (.symbol mark)
  split
  · next found => exact .inl (.operator (longest_operator found))
  · exact .inr rfl

end Read

end Lexeme
end SnippetCheck

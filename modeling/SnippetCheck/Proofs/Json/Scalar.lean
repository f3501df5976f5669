import Mathlib.Tactic.SplitIfs
import SnippetCheck.Proofs.Json.Spelling

namespace SnippetCheck.Json

/-- What may stand behind a number without becoming a part of it. -/
def EndsNumber (rest : List Char) : Prop :=
  ∀ c ∈ rest.head?, c.isDigit = false ∧ c ≠ '.' ∧ c ≠ 'e' ∧ c ≠ 'E'

theorem endsNumber_nil : EndsNumber [] :=
  fun _ here => nomatch here

theorem endsNumber_of_blank {gap rest : List Char} {c : Char} (blank : Blank gap)
    (ends : c.isDigit = false ∧ c ≠ '.' ∧ c ≠ 'e' ∧ c ≠ 'E') : EndsNumber (gap ++ c :: rest) := by
  cases gap with
  | nil => simpa [EndsNumber] using ends
  | cons b gap =>
    have isBlank := blank b List.mem_cons_self
    simp only [Reader.isBlank, Bool.or_eq_true, beq_iff_eq] at isBlank
    rintro _ ⟨⟩
    obtain ((rfl | rfl) | rfl) | rfl := isBlank <;> decide

namespace Reader

variable {α β : Type} {text rest : List Char}

/-- However a value is spelled, the reader makes the same of it and leaves what follows. -/
def Decodes (reader : Reader α) (json : Json) (result : Except Fault α) : Prop :=
  ∀ ⦃text rest : List Char⦄, Spells json text → EndsNumber rest →
    reader.outcome (text ++ rest) = result.map (·, rest)

/-- What is made of a value that is read back is made of the value itself. -/
theorem Decodes.map {reader : Reader α} {json : Json} {result : Except Fault α}
    (decodes : Decodes reader json result) (f : α → β) :
    Decodes (do return f (← reader)) json (result.map f) := by
  intro text rest spells ends
  rw [outcome_bind, decodes spells ends]
  cases result <;> rfl

section Words

theorem outcome_nullWord : nullWord.outcome ('n' :: 'u' :: 'l' :: 'l' :: rest) = .ok ((), rest) :=
  rfl

theorem outcome_trueWord : trueWord.outcome ('t' :: 'r' :: 'u' :: 'e' :: rest) = .ok ((), rest) :=
  rfl

theorem outcome_falseWord :
    falseWord.outcome ('f' :: 'a' :: 'l' :: 's' :: 'e' :: rest) = .ok ((), rest) :=
  rfl

theorem decodes_bool (value : Bool) : Decodes bool (.bool value) (.ok value) := by
  intro text rest spells ends
  obtain _ | ⟨_, blank⟩ := spells
  rw [List.append_assoc, bool]
  cases value with
  | true =>
    have letters : writeBool true = ['t', 'r', 'u', 'e'] := rfl
    simp only [letters, List.cons_append, List.nil_append]
    rw [outcome_peekValue_bind blank rfl, if_pos rfl]
    exact outcome_bind_ok outcome_trueWord
  | false =>
    have letters : writeBool false = ['f', 'a', 'l', 's', 'e'] := rfl
    simp only [letters, List.cons_append, List.nil_append]
    rw [outcome_peekValue_bind blank rfl, if_neg (by decide), if_pos rfl]
    exact outcome_bind_ok outcome_falseWord

/-- What may be left out is read from `null` as nothing. -/
theorem decodes_nullable_null (reader : Reader α) :
    Decodes (nullable reader) .null (.ok none) := by
  intro text rest spells ends
  obtain ⟨blank⟩ := spells
  have letters : "null".toList = ['n', 'u', 'l', 'l'] := rfl
  simp only [letters, List.append_assoc, List.cons_append, List.nil_append]
  rw [nullable, outcome_peekVisible_bind blank rfl, if_pos rfl]
  exact outcome_bind_ok outcome_nullWord

/-- What may be left out is read from any other value as that value. -/
theorem decodes_nullable {reader : Reader α} {json : Json} {result : Except Fault α}
    (decodes : Decodes reader json result) (other : json ≠ .null) :
    Decodes (nullable reader) json (result.map some) := by
  intro text rest spells ends
  obtain ⟨gap, c, behind, blank, rfl, opens, trimmed⟩ := spells.opens
  rw [List.append_assoc, List.cons_append, nullable, outcome_peekVisible_bind blank opens.visible,
    if_neg (by simpa using opens.ne_letter other), ← List.cons_append, outcome_bind,
    decodes trimmed ends]
  cases result <;> rfl

end Words

section Strings

theorem outcome_stringTail_quote (plain : Char → α) (escaped : Reader α) :
    outcome (stringTail plain escaped) ('"' :: rest) = .ok ([], rest) := by
  unfold outcome
  rw [stringTail]
  rfl

/-- A character that needs no escape stands for itself. -/
theorem outcome_stringTail_plain (plain : Char → α) (escaped : Reader α) {c : Char}
    (quote : c ≠ '"') (backslash : c ≠ '\\') (control : ¬ c.toNat < 0x20) :
    outcome (stringTail plain escaped) (c :: rest) =
      (outcome (stringTail plain escaped) rest).map fun tail => (plain c :: tail.1, tail.2) := by
  unfold outcome
  rw [stringTail, if_neg quote, if_neg backslash, if_neg control]
  cases stringTail plain escaped rest <;> rfl

/-- Behind a backslash the escape is read, and the string goes on behind it. -/
theorem outcome_stringTail_escaped (plain : Char → α) {escaped : Reader α} {a : α}
    {behind : List Char} (first : escaped.outcome behind = .ok (a, rest)) :
    outcome (stringTail plain escaped) ('\\' :: behind) =
      (outcome (stringTail plain escaped) rest).map fun tail => (a :: tail.1, tail.2) := by
  unfold outcome at first ⊢
  rw [stringTail, if_neg (by decide), if_pos rfl]
  cases taken : escaped behind with
  | error fault => simp [taken, Except.map] at first
  | ok here =>
    simp only [taken, Except.map, Except.ok.injEq, Prod.mk.injEq] at first
    obtain ⟨rfl, rfl⟩ := first
    dsimp only
    cases stringTail plain escaped here.rest <;> rfl

theorem outcome_nextInString_bind {c : Char} {next : Char → Reader β} :
    (nextInString >>= next).outcome (c :: rest) = (next c).outcome rest :=
  outcome_bind_ok rfl

/-- Hexadecimal digits are read as what they were written for. -/
theorem hexValue_digitChar : ∀ digit < 16, hexValue digit.digitChar = some digit := by
  decide

/-- A control character comes back from its four hexadecimal digits. -/
theorem outcome_escape_control {c : Char} (control : c.toNat < 0x20) :
    escape.outcome
        ('u' :: '0' :: '0' :: (c.toNat / 16).digitChar :: (c.toNat % 16).digitChar :: rest) =
      .ok (c, rest) := by
  have high := hexValue_digitChar (c.toNat / 16) (by omega)
  have low := hexValue_digitChar (c.toNat % 16) (by omega)
  have unit : hexUnit.outcome
      ('0' :: '0' :: (c.toNat / 16).digitChar :: (c.toNat % 16).digitChar :: rest) =
      .ok (c.toNat, rest) := by
    have zero : hexValue '0' = some 0 := rfl
    have value : ((0 * 16 + 0) * 16 + c.toNat / 16) * 16 + c.toNat % 16 = c.toNat := by omega
    simp only [outcome, hexUnit, zero, high, low, Except.map, value]
  have whole : isTrailingSurrogate c.toNat = false ∧ isLeadingSurrogate c.toNat = false := by
    simp only [isTrailingSurrogate, isLeadingSurrogate, Bool.and_eq_false_iff,
      decide_eq_false_iff_not]
    omega
  rw [escape, outcome_nextInString_bind, if_pos rfl, unicodeEscape, outcome_bind_ok unit, whole.1,
    whole.2]
  simp

/-- What a string has for a character is read as that character. -/
theorem outcome_stringTail_escapedChar (c : Char) :
    outcome (stringTail id escape) (escapedChar c ++ rest) =
      (outcome (stringTail id escape) rest).map fun tail => (c :: tail.1, tail.2) := by
  rw [escapedChar]
  split_ifs with quote backslash backspace feed line return_ tab control
  · exact outcome_stringTail_escaped id (by rw [quote]; rfl)
  · exact outcome_stringTail_escaped id (by rw [backslash]; rfl)
  · exact outcome_stringTail_escaped id (by rw [backspace]; rfl)
  · exact outcome_stringTail_escaped id (by rw [feed]; rfl)
  · exact outcome_stringTail_escaped id (by rw [line]; rfl)
  · exact outcome_stringTail_escaped id (by rw [return_]; rfl)
  · exact outcome_stringTail_escaped id (by rw [tab]; rfl)
  · exact outcome_stringTail_escaped id (outcome_escape_control control)
  · exact outcome_stringTail_plain id escape quote backslash control

/-- A text in quotes is read back, with all its escapes. -/
theorem outcome_quotedText (value : String) :
    quotedText.outcome (writeString value ++ rest) = .ok (value, rest) := by
  have tail : ∀ chars : List Char,
      outcome (stringTail id escape) (chars.flatMap escapedChar ++ '"' :: rest) =
        .ok (chars, rest) := by
    intro chars
    induction chars with
    | nil => exact outcome_stringTail_quote id escape
    | cons c chars ih =>
      rw [List.flatMap_cons, List.append_assoc, outcome_stringTail_escapedChar, ih]
      rfl
  rw [writeString, List.cons_append, List.append_assoc, quotedText, outcome_skip_bind,
    List.singleton_append, outcome_bind_ok (tail value.toList), outcome_pure,
    String.ofList_toList]

/-- A string is read back. -/
theorem decodes_string (value : String) : Decodes string (.string value) (.ok value) := by
  intro text rest spells ends
  obtain _ | _ | _ | ⟨_, blank⟩ := spells
  rw [List.append_assoc, string, writeString, List.cons_append,
    outcome_peekValue_bind blank rfl, if_pos rfl, ← List.cons_append]
  exact outcome_quotedText value

theorem outcome_memberName {name : String} {gap : List Char} (blank : Blank gap) :
    memberName.outcome (gap ++ (writeString name ++ rest)) = .ok (name, rest) := by
  rw [writeString, memberName, List.cons_append, outcome_peekVisible_bind blank rfl]
  exact outcome_quotedText name

/-- The name of a variant is looked up among those that are known. -/
theorem outcome_variantName {names : List (String × α)} {name : String} {value : α}
    {gap : List Char} (blank : Blank gap) (named : names.lookup name = some value) :
    (variantName names).outcome (gap ++ (writeString name ++ rest)) = .ok (value, rest) := by
  rw [variantName, outcome_bind_ok (outcome_memberName blank), named]
  rfl

/-- A variant is read back by its name. -/
theorem decodes_variant {names : List (String × α)} {name : String} {value : α} (levels : Nat)
    (named : names.lookup name = some value) :
    Decodes (variant names levels) (.string name) (.ok value) := by
  intro text rest spells ends
  obtain _ | _ | _ | ⟨_, blank⟩ := spells
  have read : (variantName names).outcome (writeString name ++ rest) = .ok (value, rest) :=
    outcome_variantName blank_nil named
  rw [writeString] at read ⊢
  rwa [List.append_assoc, variant, List.cons_append, outcome_peekValue_bind blank rfl, if_pos rfl]

end Strings

section Numbers

theorem le_ofDigitChars (start : Nat) (digits : List Char) :
    start ≤ Nat.ofDigitChars 10 digits start := by
  rw [Nat.ofDigitChars_eq_ofDigitChars_zero]
  have power : 0 < 10 ^ digits.length := Nat.pow_pos (by decide)
  have := Nat.le_mul_of_pos_left start power
  omega

/-- Digits are added up to the number they stand for, as long as it fits. -/
theorem addDigits_eq {digits : List Char} :
    ∀ {start : Nat}, Nat.ofDigitChars 10 digits start ≤ maxWhole →
      addDigits start digits = (Nat.ofDigitChars 10 digits start, []) := by
  induction digits with
  | nil => intros; rfl
  | cons c rest ih =>
    intro start fits
    have value : start * 10 + digitValue c = 10 * start + (c.toNat - '0'.toNat) := by
      rw [digitValue, Nat.mul_comm]
    rw [Nat.ofDigitChars_cons] at fits ⊢
    have within := Nat.le_trans (le_ofDigitChars _ rest) fits
    rw [addDigits, value, if_neg (by omega), ih fits]

/-- Behind the digits of a whole number stands nothing that makes it a fraction. -/
theorem outcome_afterDigits {value : Nat} (ends : EndsNumber rest) :
    (afterDigits false value 0).outcome rest = .ok (.whole value, rest) := by
  rw [afterDigits, outcome_peek_bind]
  cases rest with
  | nil => rfl
  | cons c rest =>
    obtain ⟨-, point, small, large⟩ := ends c rfl
    simp [point, small, large]

theorem outcome_zero (ends : EndsNumber rest) :
    (digits false).outcome ('0' :: rest) = .ok (.whole 0, rest) := by
  have after : (afterDigits false 0 0).outcome rest = .ok (.whole 0, rest) :=
    outcome_afterDigits ends
  rw [digits, outcome_peek_bind]
  change (skip >>= fun _ => _).outcome _ = _
  rw [outcome_skip_bind, outcome_peek_bind]
  cases rest with
  | nil => exact after
  | cons c rest =>
    have isOther : ¬ c.isDigit = true := by simp [(ends c rfl).1]
    simp only [List.head?_cons, if_neg isOther]
    exact after

/-- Digits without a zero in front are read as the number they stand for. -/
theorem outcome_digits {here : List Char} (fits : Nat.ofDigitChars 10 here 0 ≤ maxWhole)
    (all : ∀ c ∈ here, c.isDigit = true) (leading : ∀ c ∈ here.head?, c ≠ '0') (some : here ≠ [])
    (ends : EndsNumber rest) :
    (digits false).outcome (here ++ rest) = .ok (.whole (Nat.ofDigitChars 10 here 0), rest) := by
  obtain ⟨digit, others, rfl⟩ := List.exists_cons_of_ne_nil some
  have isDigit := all digit List.mem_cons_self
  rw [digits, outcome_peek_bind]
  simp only [List.cons_append, List.head?_cons, isDigit, Bool.not_true, Bool.false_eq_true,
    if_false, if_neg (leading digit rfl)]
  rw [← List.cons_append, outcome_takeWhile_bind all fun c here => (ends c here).1,
    addDigits_eq fits]
  exact outcome_afterDigits ends

/-- A zero in front is read on its own, any other digit with those behind it. -/
theorem outcome_numeral {value : Nat} (fits : value ≤ maxWhole) {digit : Char} {others : List Char}
    (same : (toString value).toList = digit :: others) (ends : EndsNumber rest) :
    (numeral digit).outcome (digit :: (others ++ rest)) = .ok (.whole value, rest) := by
  obtain ⟨digit', others', same', isDigit, zero⟩ := number_begins value
  obtain ⟨rfl, rfl⟩ := List.cons.inj (same'.symm.trans same)
  rw [numeral, if_neg (ne_of_isDigit isDigit rfl)]
  by_cases leading : digit' = '0'
  · obtain ⟨rfl, rfl⟩ := zero leading
    rw [leading]
    exact outcome_zero ends
  · have written : digit' :: others' = Nat.toDigits 10 value := by
      rw [← same, Nat.toString_eq_ofList_toDigits, String.toList_ofList]
    have sum : Nat.ofDigitChars 10 (digit' :: others') 0 = value := by
      rw [written, Nat.ofDigitChars_ten_toDigits]
    have all : ∀ c ∈ digit' :: others', c.isDigit = true := by
      rw [written]
      exact fun c => Nat.isDigit_of_mem_toDigits (by decide) (by decide)
    have whole := outcome_digits (sum.symm ▸ fits) all (by simpa using leading) (by simp) ends
    rwa [sum] at whole

/-- A number is read back if it is below the bound of its type. -/
theorem decodes_natural {bound value : Nat} (expected : String) (small : value < bound)
    (fits : bound ≤ UInt64.size) :
    Decodes (natural bound expected) (.number value) (.ok value) := by
  intro text rest spells ends
  obtain _ | _ | ⟨_, blank⟩ := spells
  obtain ⟨digit, others, same, isDigit, -⟩ := number_begins value
  have opens : (Json.number value).Opens digit := isDigit
  have number : (numeral digit).outcome (digit :: (others ++ rest)) = .ok (.whole value, rest) :=
    outcome_numeral (by rw [maxWhole]; omega) same ends
  rw [List.append_assoc, same, natural, List.cons_append,
    outcome_peekValue_bind blank opens.visible, if_pos (.inr isDigit), outcome_bind_ok number]
  have within : (0 : Int) ≤ value ∧ (value : Int) < bound := by omega
  simp only [if_pos within]
  rfl

theorem decodes_word32 (value : UInt32) : Decodes word32 (.number value.toNat) (.ok value) := by
  have whole := (decodes_natural "u32" value.toNat_lt (by decide)).map Nat.toUInt32
  rwa [Except.map, Nat.toUInt32, UInt32.ofNat_toNat] at whole

theorem decodes_word64 (value : UInt64) : Decodes word64 (.number value.toNat) (.ok value) := by
  have whole := (decodes_natural "usize" value.toNat_lt (Nat.le_refl _)).map Nat.toUInt64
  rwa [Except.map, Nat.toUInt64, UInt64.ofNat_toNat] at whole

end Numbers

end Reader
end SnippetCheck.Json

import SnippetCheck.Json.Write
import SnippetCheck.Proofs.Json.Outcome

namespace SnippetCheck.Json

mutual
/-- The text says what the value is, with any blanks in front of its lexemes. -/
inductive Spells : Json → List Char → Prop
  | null {gap} : Blank gap → Spells .null (gap ++ "null".toList)
  | bool {gap} (value : Bool) : Blank gap → Spells (.bool value) (gap ++ writeBool value)
  | number {gap} (value : Nat) : Blank gap →
      Spells (.number value) (gap ++ (toString value).toList)
  | string {gap} (value : String) : Blank gap → Spells (.string value) (gap ++ writeString value)
  | emptyArray {gap inner} : Blank gap → Blank inner →
      Spells (.array []) (gap ++ '[' :: (inner ++ [']']))
  | array {gap first rest text tail} : Blank gap → Spells first text → SpellsItems rest tail →
      Spells (.array (first :: rest)) (gap ++ '[' :: (text ++ tail))
  | emptyObject {gap inner} : Blank gap → Blank inner →
      Spells (.object []) (gap ++ '\x7b' :: (inner ++ ['\x7d']))
  | object {gap first rest text tail} : Blank gap → SpellsMember first text →
      SpellsMembers rest tail → Spells (.object (first :: rest)) (gap ++ '\x7b' :: (text ++ tail))

/-- The items behind the first, and the closing bracket. -/
inductive SpellsItems : List Json → List Char → Prop
  | close {gap} : Blank gap → SpellsItems [] (gap ++ [']'])
  | next {gap item rest text tail} : Blank gap → Spells item text → SpellsItems rest tail →
      SpellsItems (item :: rest) (gap ++ ',' :: (text ++ tail))

inductive SpellsMember : String × Json → List Char → Prop
  | mk {gap inner name value text} : Blank gap → Blank inner → Spells value text →
      SpellsMember (name, value) (gap ++ writeString name ++ (inner ++ ':' :: text))

/-- The members behind the first, and the closing brace. -/
inductive SpellsMembers : List (String × Json) → List Char → Prop
  | close {gap} : Blank gap → SpellsMembers [] (gap ++ ['\x7d'])
  | next {gap member rest text tail} : Blank gap → SpellsMember member text →
      SpellsMembers rest tail → SpellsMembers (member :: rest) (gap ++ ',' :: (text ++ tail))
end

theorem blank_nil : Blank [] :=
  fun _ inside => nomatch inside

theorem blank_newLine (level : Nat) : Blank (newLine level) := by
  intro c inside
  obtain rfl | inside := List.mem_cons.1 inside
  · rfl
  · rw [List.eq_of_mem_replicate inside]
    rfl

theorem blank_space : Blank [' '] :=
  fun _ inside => List.mem_singleton.1 inside ▸ rfl

theorem blank_append {a b : List Char} (left : Blank a) (right : Blank b) : Blank (a ++ b) :=
  fun c inside => (List.mem_append.1 inside).elim (left c) (right c)

/-- More blanks may stand in front. -/
theorem Spells.indent {json : Json} {text gap : List Char} (blank : Blank gap)
    (spells : Spells json text) : Spells json (gap ++ text) := by
  cases spells <;> rw [← List.append_assoc]
  case null inner => exact .null (blank_append blank inner)
  case bool inner => exact .bool _ (blank_append blank inner)
  case number inner => exact .number _ (blank_append blank inner)
  case string inner => exact .string _ (blank_append blank inner)
  case emptyArray outer inner => exact .emptyArray (blank_append blank outer) inner
  case array outer first others => exact .array (blank_append blank outer) first others
  case emptyObject outer inner => exact .emptyObject (blank_append blank outer) inner
  case object outer first others => exact .object (blank_append blank outer) first others

/-- A written number begins with a digit, and with a zero only if it is zero. -/
theorem number_begins (value : Nat) :
    ∃ digit others, (toString value).toList = digit :: others ∧ digit.isDigit = true ∧
      (digit = '0' → value = 0 ∧ others = []) := by
  rw [Nat.toString_eq_ofList_toDigits, String.toList_ofList]
  induction value using Nat.strongRecOn with
  | ind value ih =>
    by_cases small : value < 10
    · rw [Nat.toDigits_of_lt_base small]
      exact ⟨_, [], rfl, by simpa [Nat.isDigit_digitChar] using small,
        fun zero => ⟨Nat.digitChar_eq_zero.1 zero, rfl⟩⟩
    · obtain ⟨digit, others, same, isDigit, zero⟩ := ih (value / 10) (by omega)
      rw [Nat.toDigits_of_base_le (by decide) (by omega), same]
      exact ⟨digit, _, rfl, isDigit, fun is => by have := (zero is).1; omega⟩

/-- What a value can begin with. -/
def Opens : Json → Char → Prop
  | .null, c => c = 'n'
  | .bool _, c => c = 't' ∨ c = 'f'
  | .number _, c => c.isDigit = true
  | .string _, c => c = '"'
  | .array _, c => c = '['
  | .object _, c => c = '\x7b'

theorem ne_of_isDigit {c other : Char} (isDigit : c.isDigit = true)
    (isOther : other.isDigit = false) : c ≠ other :=
  fun same => by simp [same, isOther] at isDigit

namespace Opens

/-- What a value that is neither `null` nor a number can begin with. -/
def marks : List Char :=
  ['t', 'f', '"', '[', '\x7b']

variable {json : Json} {c : Char}

/-- Values begin with a letter of their word, a digit, or a mark of their kind. -/
theorem eq_null_or_isDigit_or_mem (opens : json.Opens c) :
    json = .null ∧ c = 'n' ∨ c.isDigit = true ∨ c ∈ marks := by
  cases json with
  | null => exact .inl ⟨rfl, opens⟩
  | number => exact .inr (.inl opens)
  | bool => exact .inr (.inr (by obtain rfl | rfl := opens <;> decide))
  | string => exact .inr (.inr (by obtain rfl := opens; decide))
  | array => exact .inr (.inr (by obtain rfl := opens; decide))
  | object => exact .inr (.inr (by obtain rfl := opens; decide))

/-- No value begins with a blank. -/
theorem visible (opens : json.Opens c) : Reader.isBlank c = false := by
  obtain ⟨-, rfl⟩ | isDigit | mark := opens.eq_null_or_isDigit_or_mem
  · rfl
  · simp only [Reader.isBlank, Bool.or_eq_false_iff, beq_eq_false_iff_ne]
    exact ⟨⟨⟨ne_of_isDigit isDigit rfl, ne_of_isDigit isDigit rfl⟩, ne_of_isDigit isDigit rfl⟩,
      ne_of_isDigit isDigit rfl⟩
  · have known : ∀ c ∈ marks, Reader.isBlank c = false := by simp [marks, Reader.isBlank]
    exact known c mark

theorem ne_bracket (opens : json.Opens c) : c ≠ ']' := by
  obtain ⟨-, rfl⟩ | isDigit | mark := opens.eq_null_or_isDigit_or_mem
  · decide
  · exact ne_of_isDigit isDigit rfl
  · have known : ∀ c ∈ marks, c ≠ ']' := by simp [marks]
    exact known c mark

theorem ne_letter (opens : json.Opens c) (other : json ≠ .null) : c ≠ 'n' := by
  obtain ⟨isNull, -⟩ | isDigit | mark := opens.eq_null_or_isDigit_or_mem
  · exact absurd isNull other
  · exact ne_of_isDigit isDigit rfl
  · have known : ∀ c ∈ marks, c ≠ 'n' := by simp [marks]
    exact known c mark

end Opens

/-- The blanks in front taken away. -/
theorem Spells.opens {json : Json} {text : List Char} (spells : Spells json text) :
    ∃ gap c behind, Blank gap ∧ text = gap ++ c :: behind ∧ json.Opens c ∧
      Spells json (c :: behind) := by
  cases spells
  case null gap blank => exact ⟨gap, _, _, blank, rfl, rfl, .null blank_nil⟩
  case bool gap value blank =>
    cases value with
    | true => exact ⟨gap, _, _, blank, rfl, .inl rfl, .bool true blank_nil⟩
    | false => exact ⟨gap, _, _, blank, rfl, .inr rfl, .bool false blank_nil⟩
  case number gap value blank =>
    obtain ⟨digit, others, same, isDigit, -⟩ := number_begins value
    exact ⟨gap, digit, others, blank, by rw [same], isDigit, same ▸ .number value blank_nil⟩
  case string gap value blank => exact ⟨gap, _, _, blank, rfl, rfl, .string value blank_nil⟩
  case emptyArray gap inner blank empty =>
    exact ⟨gap, _, _, blank, rfl, rfl, .emptyArray blank_nil empty⟩
  case array gap first rest text tail blank item items =>
    exact ⟨gap, _, _, blank, rfl, rfl, .array blank_nil item items⟩
  case emptyObject gap inner blank empty =>
    exact ⟨gap, _, _, blank, rfl, rfl, .emptyObject blank_nil empty⟩
  case object gap first rest text tail blank member members =>
    exact ⟨gap, _, _, blank, rfl, rfl, .object blank_nil member members⟩

section Layouts

variable {value : Json} {text : List Char} (spells : Spells value text) (name : String)

include spells

/-- A member without any blank. -/
theorem Spells.compactMember :
    SpellsMember (name, value) (writeString name ++ ':' :: text) :=
  .mk blank_nil blank_nil spells

/-- A member on a line of its own. -/
theorem Spells.indentedMember (level : Nat) :
    SpellsMember (name, value) (newLine level ++ writeString name ++ ':' :: ' ' :: text) :=
  .mk (blank_newLine level) blank_nil (spells.indent blank_space)

end Layouts

mutual
/-- What is written without blanks spells the value. -/
theorem spells_write : ∀ json : Json, Spells json json.write
  | .null => .null blank_nil
  | .bool value => .bool value blank_nil
  | .number value => .number value blank_nil
  | .string value => .string value blank_nil
  | .array [] => .emptyArray blank_nil blank_nil
  | .array (first :: rest) => .array blank_nil (spells_write first) (spells_writeItems rest)
  | .object [] => .emptyObject blank_nil blank_nil
  | .object ((name, value) :: rest) => by
    have member := (spells_write value).compactMember name
    simpa [write] using Spells.object blank_nil member (spells_writeMembers rest)

theorem spells_writeItems : ∀ items : List Json, SpellsItems items (writeItems items)
  | [] => .close blank_nil
  | first :: rest => .next blank_nil (spells_write first) (spells_writeItems rest)

theorem spells_writeMembers :
    ∀ members : List (String × Json), SpellsMembers members (writeMembers members)
  | [] => .close blank_nil
  | (name, value) :: rest => by
    have member := (spells_write value).compactMember name
    simpa [writeMembers] using SpellsMembers.next blank_nil member (spells_writeMembers rest)
end

mutual
/-- What is written over lines spells the value, at any indentation. -/
theorem spells_writeIndented : ∀ (level : Nat) (json : Json), Spells json (json.writeIndented level)
  | _, .null => .null blank_nil
  | _, .bool value => .bool value blank_nil
  | _, .number value => .number value blank_nil
  | _, .string value => .string value blank_nil
  | _, .array [] => .emptyArray blank_nil blank_nil
  | level, .array (first :: rest) => by
    have item := (spells_writeIndented (level + 1) first).indent (blank_newLine (level + 1))
    simpa [writeIndented] using Spells.array blank_nil item (spells_writeItemsIndented level rest)
  | _, .object [] => .emptyObject blank_nil blank_nil
  | level, .object ((name, value) :: rest) => by
    have member := (spells_writeIndented (level + 1) value).indentedMember name (level + 1)
    simpa [writeIndented] using
      Spells.object blank_nil member (spells_writeMembersIndented level rest)

theorem spells_writeItemsIndented :
    ∀ (level : Nat) (items : List Json), SpellsItems items (writeItemsIndented level items)
  | level, [] => .close (blank_newLine level)
  | level, first :: rest => by
    have item := (spells_writeIndented (level + 1) first).indent (blank_newLine (level + 1))
    simpa [writeItemsIndented] using
      SpellsItems.next blank_nil item (spells_writeItemsIndented level rest)

theorem spells_writeMembersIndented :
    ∀ (level : Nat) (members : List (String × Json)),
      SpellsMembers members (writeMembersIndented level members)
  | level, [] => .close (blank_newLine level)
  | level, (name, value) :: rest => by
    have member := (spells_writeIndented (level + 1) value).indentedMember name (level + 1)
    simpa [writeMembersIndented] using
      SpellsMembers.next blank_nil member (spells_writeMembersIndented level rest)
end

end SnippetCheck.Json

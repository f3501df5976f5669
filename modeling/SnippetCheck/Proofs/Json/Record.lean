import SnippetCheck.Proofs.Json.Compound

namespace SnippetCheck.Json

open Reader

variable {α : Type}

theorem outcome_colon {gap rest : List Char} (blank : Blank gap) :
    colon.outcome (gap ++ ':' :: rest) = .ok ((), rest) := by
  rw [colon, outcome_peekVisible_bind blank rfl]
  rfl

/-- The members of an object are the fields of a record in their order, some optional ones left
out. They are read up to the first fault. -/
inductive Fills : List (Field α) → List (String × Json) → α → Except Fault α → Prop
  | done {record} : Fills [] [] record (.ok record)
  | omitted {field fields members record result} : field.optional = true →
      Fills fields members record result → Fills (field :: fields) members record result
  | read {field fields json members record fill result} : Decodes field.read json (.ok fill) →
      Fills fields members (fill record) result →
      Fills (field :: fields) ((field.name, json) :: members) record result
  | stopped {field fields json members record fault} :
      Decodes field.read json (.error fault) →
      Fills (field :: fields) ((field.name, json) :: members) record (.error fault)

namespace Shape

theorem find?_name {before after : List (Field α)} {field : Field α}
    (distinct : ((before ++ field :: after).map Field.name).Nodup) :
    (before ++ field :: after).find? (·.name == field.name) = some field := by
  rw [List.map_append, List.map_cons, List.nodup_append] at distinct
  have others : before.find? (·.name == field.name) = none := by
    rw [List.find?_eq_none]
    intro other inside same
    exact distinct.2.2 other.name (List.mem_map_of_mem inside) field.name List.mem_cons_self
      (by simpa using same)
  simp [List.find?_append, others]

/-- Each of these fields has been read or may be left out, and nothing else has been read. -/
structure Passed (fields : List (Field α)) (filled : List String) : Prop where
  enough : ∀ field ∈ fields, field.optional = true ∨ field.name ∈ filled
  only : ∀ name ∈ filled, name ∈ fields.map Field.name

namespace Passed

variable {fields : List (Field α)} {filled : List String} {field : Field α}

theorem leaveOut (passed : Passed fields filled) (optional : field.optional = true) :
    Passed (fields ++ [field]) filled where
  enough other inside := by
    obtain inside | last := List.mem_append.1 inside
    · exact passed.enough other inside
    · exact .inl (List.mem_singleton.1 last ▸ optional)
  only name inside := by
    rw [List.map_append]
    exact List.mem_append_left _ (passed.only name inside)

theorem read (passed : Passed fields filled) :
    Passed (fields ++ [field]) (field.name :: filled) where
  enough other inside := by
    obtain inside | last := List.mem_append.1 inside
    · exact (passed.enough other inside).imp_right (List.mem_cons_of_mem _)
    · exact .inr (List.mem_singleton.1 last ▸ List.mem_cons_self)
  only name inside := by
    rw [List.map_append]
    obtain rfl | inside := List.mem_cons.1 inside
    · exact List.mem_append_right _ List.mem_cons_self
    · exact List.mem_append_left _ (passed.only name inside)

/-- A field behind has not been read. -/
theorem fresh {after : List (Field α)} (passed : Passed fields filled)
    (distinct : ((fields ++ field :: after).map Field.name).Nodup) : field.name ∉ filled := by
  rw [List.map_append, List.map_cons, List.nodup_append] at distinct
  exact fun inside =>
    distinct.2.2 field.name (passed.only _ inside) field.name List.mem_cons_self rfl

end Passed

variable {shape : Shape α} (distinct : (shape.fields.map Field.name).Nodup)

include distinct

/-- A field that has not been read yet is read from its member. -/
theorem decodesMember {before after : List (Field α)} {field : Field α}
    (split : shape.fields = before ++ field :: after) {filled : List String}
    (passed : Passed before filled) {json : Json} {record : α} {result : Except Fault (α → α)}
    (decodes : Decodes field.read json result) :
    DecodesMember (shape.member ⟨record, filled⟩) (field.name, json)
      (result.map fun fill => ⟨fill record, field.name :: filled⟩) := by
  intro text rest spells ends
  obtain ⟨blank, between, value⟩ := spells
  rw [split] at distinct
  have fresh : filled.contains field.name = false := by simpa using passed.fresh distinct
  rw [List.append_assoc, List.append_assoc, List.append_assoc, List.cons_append, member,
    outcome_bind_ok (outcome_memberName blank), split, find?_name distinct]
  simp only [fresh, Bool.false_eq_true, if_false]
  rw [outcome_bind_ok (outcome_colon between), outcome_bind, decodes value ends]
  cases result <;> rfl

/-- Where `before` is passed, members that fill the fields behind are read. -/
theorem decodesMembers {before fields : List (Field α)} (split : shape.fields = before ++ fields)
    {members : List (String × Json)} {record : α} {result : Except Fault α}
    (fills : Fills fields members record result) {filled : List String}
    (passed : Passed before filled) :
    ∃ drafts, DecodesMembers shape.member ⟨record, filled⟩ members drafts ∧
      drafts.map Draft.record = result ∧
        ∀ last, drafts = .ok last → Passed shape.fields last.filled := by
  induction fills generalizing before filled with
  | done =>
    refine ⟨_, .done, rfl, ?_⟩
    rintro _ ⟨⟩
    rw [split, List.append_nil]
    exact passed
  | omitted optional _ ih => exact ih (split.trans (List.append_cons ..)) (passed.leaveOut optional)
  | read decodes _ ih =>
    obtain ⟨drafts, others, records, complete⟩ :=
      ih (split.trans (List.append_cons ..)) passed.read
    exact ⟨drafts, .step (decodesMember distinct split passed decodes) others, records, complete⟩
  | stopped decodes =>
    exact ⟨_, .stop (decodesMember distinct split passed decodes), rfl, fun _ isOk => nomatch isOk⟩

/-- A record is read from the object it is written as if a bracket more may be open. No required
field is missing behind the members, which would be a fault of its own. -/
theorem decodes_reader {levels : Nat} (room : levels ≠ 0) {members : List (String × Json)}
    {result : Except Fault α} (fills : Fills shape.fields members shape.blank result) :
    Decodes (shape.reader levels) (.object members) result := by
  have start : Passed ([] : List (Field α)) [] :=
    ⟨fun _ inside => (nomatch inside), fun _ inside => nomatch inside⟩
  obtain ⟨drafts, decodes, rfl, complete⟩ := decodesMembers distinct rfl fills start
  refine decodes_object Draft.record room decodes rfl fun last isLast gap rest blank => ?_
  have noneMissing : (shape.fields.find? fun field =>
      !(field.optional || last.filled.contains field.name)) = none := by
    rw [List.find?_eq_none]
    intro field inside
    obtain optional | read := (complete last isLast).enough field inside
    · simp [optional]
    · simp [read]
  rw [noneMissing]
  exact outcome_bind_ok (outcome_closeObject blank)

omit distinct in
/-- An object is not even opened if no bracket more may be open. -/
theorem decodes_reader_tooDeep (shape : Shape α) (members : List (String × Json)) :
    Decodes (shape.reader 0) (.object members) (.error .tooDeep) := by
  intro text rest spells ends
  obtain ⟨gap, c, behind, blank, rfl, opens, -⟩ := spells.opens
  obtain rfl : c = '\x7b' := opens
  rw [List.append_assoc, List.cons_append, reader, outcome_peekValue_bind blank rfl]
  exact outcome_bind_error (outcome_bind_error rfl)

end Shape
end SnippetCheck.Json

import SnippetCheck.Proofs.Json.Scalar

namespace SnippetCheck.Json

variable {text tail gap : List Char}

/-- Behind an item stands a comma, a blank or a bracket, none of which a number goes on with. -/
theorem SpellsItems.endsNumber {items : List Json} (spells : SpellsItems items tail)
    (rest : List Char) : EndsNumber (tail ++ rest) := by
  cases spells with
  | close blank | next blank =>
    rw [List.append_assoc]
    exact endsNumber_of_blank blank (by decide)

theorem SpellsMembers.endsNumber {members : List (String × Json)}
    (spells : SpellsMembers members tail) (rest : List Char) : EndsNumber (tail ++ rest) := by
  cases spells with
  | close blank | next blank =>
    rw [List.append_assoc]
    exact endsNumber_of_blank blank (by decide)

/-- The blanks in front of a name taken away. -/
theorem SpellsMember.opens {member : String × Json} (spells : SpellsMember member text) :
    ∃ gap behind, Blank gap ∧ text = gap ++ '"' :: behind ∧
      SpellsMember member ('"' :: behind) := by
  obtain ⟨blank, between, value⟩ := spells
  exact ⟨_, _, blank, List.append_assoc _ _ _, .mk blank_nil between value⟩

namespace Reader

variable {α β σ : Type} {levels : Nat} {rest : List Char}

theorem outcome_enter_bind {c : Char} {next : Unit → Reader β} (room : levels ≠ 0) :
    (enter levels >>= next).outcome (c :: rest) = (next ()).outcome rest := by
  rw [enter, if_neg room, outcome_skip_bind]

section Lists

/-- Whether there is an item is told by the first character that is no blank. -/
theorem outcome_hasItem {c : Char} (blank : Blank gap) (visible : isBlank c = false) :
    hasItem.outcome (gap ++ c :: rest) = .ok (c != ']', c :: rest) := by
  rw [hasItem, outcome_peekVisible_bind blank visible]
  rfl

theorem outcome_closeList (blank : Blank gap) :
    closeList.outcome (gap ++ ']' :: rest) = .ok ((), rest) := by
  rw [closeList, outcome_peekVisible_bind blank rfl]
  rfl

theorem hasOtherItem_close (blank : Blank gap) :
    hasOtherItem (gap ++ ']' :: rest) =
      .ok ⟨false, gap ++ ']' :: rest, List.suffix_refl _⟩ := by
  obtain ⟨suffix, found⟩ := firstVisible_eq blank ']' rest rfl
  rw [hasOtherItem, found]
  rfl

/-- A value shows something other than a closing bracket. -/
theorem firstVisible_value {json : Json} (spells : Spells json text) (rest : List Char) :
    ∃ first, firstVisible (text ++ rest) = some first ∧ first.value ≠ ']' := by
  obtain ⟨gap, c, behind, blank, rfl, opens, -⟩ := spells.opens
  rw [List.append_assoc, List.cons_append]
  obtain ⟨suffix, found⟩ := firstVisible_eq blank c (behind ++ rest) opens.visible
  exact ⟨_, found, opens.ne_bracket⟩

/-- A comma has to be followed by an item, and is. -/
theorem hasOtherItem_next {json : Json} (blank : Blank gap) (spells : Spells json text)
    (rest : List Char) :
    ∃ suffix, hasOtherItem (gap ++ ',' :: (text ++ rest)) = .ok ⟨true, text ++ rest, suffix⟩ := by
  obtain ⟨suffix, comma⟩ := firstVisible_eq blank ',' (text ++ rest) rfl
  obtain ⟨first, item, other⟩ := firstVisible_value spells rest
  exact ⟨suffix, by simp [hasOtherItem, comma, item, other]⟩

theorem outcome_hasOtherItem {json : Json} (blank : Blank gap) (spells : Spells json text) :
    hasOtherItem.outcome (gap ++ ',' :: (text ++ rest)) = .ok (true, text ++ rest) := by
  obtain ⟨suffix, follows⟩ := hasOtherItem_next blank spells rest
  rw [outcome, follows]
  rfl

/-- The items end at the closing bracket. -/
theorem outcome_otherItems_close (item : Reader α) (blank : Blank gap) :
    outcome (otherItems item) (gap ++ ']' :: rest) = .ok ([], gap ++ ']' :: rest) := by
  unfold outcome
  rw [otherItems]
  split
  · next fault found => simp [hasOtherItem_close blank] at found
  · next other found =>
    obtain rfl := Except.ok.inj ((hasOtherItem_close blank).symm.trans found)
    rfl

/-- Behind a comma an item is read, and then those that are left. -/
theorem outcome_otherItems_next (item : Reader α) {json : Json} (blank : Blank gap)
    (spells : Spells json text) :
    outcome (otherItems item) (gap ++ ',' :: (text ++ rest)) =
      (item.outcome (text ++ rest)).bind fun first =>
        (outcome (otherItems item) first.2).map fun others => (first.1 :: others.1, others.2) := by
  obtain ⟨suffix, follows⟩ := hasOtherItem_next blank spells rest
  unfold outcome
  rw [otherItems]
  split
  · next fault found => simp [follows] at found
  · next other found =>
    obtain rfl := Except.ok.inj (follows.symm.trans found)
    rw [dif_pos rfl]
    cases item (text ++ rest) with
    | error fault => rfl
    | ok first =>
      simp only [Except.map, Except.bind, bind, pure, Except.pure]
      cases otherItems item first.rest <;> rfl

variable {item : Reader α} {encode : β → Json} {result : β → Except Fault α}

/-- The items behind the first are read one by one, up to the first fault. -/
theorem outcome_otherItems (values : List β)
    (each : ∀ value ∈ values, Decodes item (encode value) (result value))
    (spells : SpellsItems (values.map encode) tail) (rest : List Char) :
    ∃ gap, Blank gap ∧ outcome (otherItems item) (tail ++ rest) =
      (values.mapM result).map (·, gap ++ ']' :: rest) := by
  induction values generalizing tail with
  | nil =>
    obtain ⟨blank⟩ := spells
    rw [List.append_assoc]
    exact ⟨_, blank, outcome_otherItems_close item blank⟩
  | cons value values ih =>
    obtain _ | ⟨blank, first, others⟩ := spells
    obtain ⟨gap, closing, tailRead⟩ :=
      ih (fun value inside => each value (List.mem_cons_of_mem _ inside)) others
    refine ⟨gap, closing, ?_⟩
    have head := each value List.mem_cons_self first (others.endsNumber rest)
    rw [List.append_assoc, List.cons_append, List.append_assoc,
      outcome_otherItems_next item blank first, head, List.mapM_cons]
    cases result value with
    | error fault => rfl
    | ok a =>
      simp only [Except.map, Except.bind, tailRead]
      cases values.mapM result <;> rfl

/-- A list is read if a bracket more may be open. The first fault of an item is the list's. -/
theorem decodes_list {item : Nat → Reader α} (values : List β) (room : levels ≠ 0)
    (each : ∀ value ∈ values, Decodes (item (levels - 1)) (encode value) (result value)) :
    Decodes (list item levels) (.array (values.map encode)) (values.mapM result) := by
  intro text rest spells ends
  cases values with
  | nil =>
    obtain _ | _ | _ | _ | ⟨blank, empty⟩ := spells
    rw [List.append_assoc, List.cons_append, List.append_assoc, list,
      outcome_peekValue_bind blank rfl, if_pos rfl, outcome_enter_bind room,
      List.singleton_append, outcome_bind_ok (outcome_hasItem empty rfl)]
    change (pure [] >>= fun items => closeList >>= fun _ => pure items).outcome ([] ++ _) = _
    rw [outcome_pure_bind, outcome_bind_ok (outcome_closeList blank_nil)]
    rfl
  | cons value values =>
    obtain _ | _ | _ | _ | _ | ⟨blank, first, others⟩ := spells
    obtain ⟨gap, closing, tailRead⟩ := outcome_otherItems values
      (fun value inside => each value (List.mem_cons_of_mem _ inside)) others rest
    obtain ⟨gap', c, behind, blank', rfl, opens, trimmed⟩ := first.opens
    have head := each value List.mem_cons_self trimmed (others.endsNumber rest)
    simp only [List.append_assoc, List.cons_append] at head ⊢
    rw [list, outcome_peekValue_bind blank rfl, if_pos rfl, outcome_enter_bind room,
      outcome_bind_ok (outcome_hasItem blank' opens.visible)]
    simp only [bne_iff_ne, ne_eq, opens.ne_bracket, not_false_eq_true, if_true]
    rw [outcome_bind, head, List.mapM_cons]
    cases result value with
    | error fault => rfl
    | ok a =>
      cases all : values.mapM result with
      | error fault =>
        rw [all] at tailRead
        exact outcome_bind_error tailRead
      | ok as =>
        rw [all] at tailRead
        refine (outcome_bind_ok tailRead).trans ?_
        rw [outcome_pure_bind, outcome_bind_ok (outcome_closeList closing)]
        rfl

theorem decodes_list_ok {item : Nat → Reader α} {encode : α → Json} (values : List α)
    (room : levels ≠ 0)
    (each : ∀ value ∈ values, Decodes (item (levels - 1)) (encode value) (.ok value)) :
    Decodes (list item levels) (.array (values.map encode)) (.ok values) := by
  have whole := decodes_list values room each
  have same : values.mapM (Except.ok : α → Except Fault α) = .ok values := by
    rw [show (Except.ok : α → Except Fault α) = fun a => pure (id a) from rfl, List.mapM_pure,
      List.map_id]
    rfl
  rwa [same] at whole

theorem decodes_strings (texts : List String) (room : levels ≠ 0) :
    Decodes (list (fun _ => string) levels) (.strings texts) (.ok texts) :=
  decodes_list_ok texts room fun text _ => decodes_string text

/-- A list is not even opened if no bracket more may be open. -/
theorem decodes_list_tooDeep (item : Nat → Reader α) (items : List Json) :
    Decodes (list item 0) (.array items) (.error .tooDeep) := by
  intro text rest spells ends
  obtain ⟨gap, c, behind, blank, rfl, opens, -⟩ := spells.opens
  obtain rfl : c = '[' := opens
  rw [List.append_assoc, List.cons_append, list, outcome_peekValue_bind blank rfl, if_pos rfl]
  exact outcome_bind_error rfl

/-- A list of two is read as a pair. -/
theorem decodes_pair {item : Reader α} {first second : Json} {a b : α} (room : levels ≠ 0)
    (decodesFirst : Decodes item first (.ok a)) (decodesSecond : Decodes item second (.ok b)) :
    Decodes (pair item levels) (.array [first, second]) (.ok (a, b)) := by
  intro text rest spells ends
  obtain _ | _ | _ | _ | _ | ⟨blank, one, others⟩ := spells
  obtain ⟨gap, c, behind, blank', rfl, opens, trimmed⟩ := one.opens
  have head := decodesFirst trimmed (others.endsNumber rest)
  obtain _ | ⟨comma, two, closing⟩ := others
  have last := decodesSecond two (closing.endsNumber rest)
  obtain ⟨closing⟩ := closing
  simp only [List.append_assoc, List.cons_append] at head last ⊢
  rw [pair, outcome_peekValue_bind blank rfl, if_pos rfl, outcome_enter_bind room,
    outcome_bind_ok (outcome_hasItem blank' opens.visible)]
  simp only [bne_iff_ne, ne_eq, opens.ne_bracket, not_false_eq_true, if_true]
  rw [outcome_bind_ok head, outcome_bind_ok (outcome_hasOtherItem comma two), if_pos rfl,
    outcome_bind_ok last]
  exact outcome_bind_ok (outcome_closeList closing)

end Lists

section Members

/-- The same for a member of an object, read as a whole. -/
def DecodesMember (reader : Reader α) (member : String × Json) (result : Except Fault α) : Prop :=
  ∀ ⦃text rest : List Char⦄, SpellsMember member text → EndsNumber rest →
    reader.outcome (text ++ rest) = result.map (·, rest)

/-- Members are read one by one, each changing the state, up to the first fault. -/
inductive DecodesMembers (member : σ → Reader σ) :
    σ → List (String × Json) → Except Fault σ → Prop
  | done {state} : DecodesMembers member state [] (.ok state)
  | step {state next first others result} : DecodesMember (member state) first (.ok next) →
      DecodesMembers member next others result →
      DecodesMembers member state (first :: others) result
  | stop {state first others fault} : DecodesMember (member state) first (.error fault) →
      DecodesMembers member state (first :: others) (.error fault)

theorem hasOtherMember_close (blank : Blank gap) :
    hasOtherMember (gap ++ '\x7d' :: rest) =
      .ok ⟨false, gap ++ '\x7d' :: rest, List.suffix_refl _⟩ := by
  obtain ⟨suffix, found⟩ := firstVisible_eq blank '\x7d' rest rfl
  rw [hasOtherMember, found]
  rfl

/-- A member begins with the quote of its name. -/
theorem firstVisible_member {member : String × Json} (spells : SpellsMember member text)
    (rest : List Char) :
    ∃ first, firstVisible (text ++ rest) = some first ∧ first.value = '"' := by
  obtain ⟨gap, behind, blank, rfl, -⟩ := spells.opens
  rw [List.append_assoc, List.cons_append]
  obtain ⟨suffix, found⟩ := firstVisible_eq blank '"' (behind ++ rest) rfl
  exact ⟨_, found, rfl⟩

/-- A comma has to be followed by a member, and is. -/
theorem hasOtherMember_next {member : String × Json} (blank : Blank gap)
    (spells : SpellsMember member text) (rest : List Char) :
    ∃ suffix, hasOtherMember (gap ++ ',' :: (text ++ rest)) = .ok ⟨true, text ++ rest, suffix⟩ := by
  obtain ⟨suffix, comma⟩ := firstVisible_eq blank ',' (text ++ rest) rfl
  obtain ⟨first, name, quote⟩ := firstVisible_member spells rest
  exact ⟨suffix, by simp [hasOtherMember, comma, name, quote]⟩

theorem outcome_otherMembers_close (member : σ → Reader σ) (state : σ) (blank : Blank gap) :
    outcome (otherMembers member state) (gap ++ '\x7d' :: rest) =
      .ok (state, gap ++ '\x7d' :: rest) := by
  unfold outcome
  rw [otherMembers]
  split
  · next fault found => simp [hasOtherMember_close blank] at found
  · next other found =>
    obtain rfl := Except.ok.inj ((hasOtherMember_close blank).symm.trans found)
    rfl

/-- Behind a comma a member is taken into the state, and then those that are left. -/
theorem outcome_otherMembers_next (member : σ → Reader σ) (state : σ) {first : String × Json}
    (blank : Blank gap) (spells : SpellsMember first text) :
    outcome (otherMembers member state) (gap ++ ',' :: (text ++ rest)) =
      ((member state).outcome (text ++ rest)).bind fun first =>
        outcome (otherMembers member first.1) first.2 := by
  obtain ⟨suffix, follows⟩ := hasOtherMember_next blank spells rest
  unfold outcome
  rw [otherMembers]
  split
  · next fault found => simp [follows] at found
  · next other found =>
    obtain rfl := Except.ok.inj (follows.symm.trans found)
    rw [dif_pos rfl]
    cases member state (text ++ rest) with
    | error fault => rfl
    | ok first =>
      simp only [Except.map, Except.bind, bind, pure, Except.pure]
      cases otherMembers member first.value first.rest <;> rfl

variable {member : σ → Reader σ} {state : σ} {all : List (String × Json)} {result : Except Fault σ}

/-- Members are taken into the state one after the other, up to the first fault. -/
theorem outcome_otherMembers (decodes : DecodesMembers member state all result)
    (spells : SpellsMembers all tail) (rest : List Char) :
    ∃ gap, Blank gap ∧ outcome (otherMembers member state) (tail ++ rest) =
      result.map (·, gap ++ '\x7d' :: rest) := by
  induction decodes generalizing tail with
  | done =>
    obtain ⟨blank⟩ := spells
    rw [List.append_assoc]
    exact ⟨_, blank, outcome_otherMembers_close member _ blank⟩
  | step head _ ih =>
    obtain _ | ⟨blank, first, others⟩ := spells
    obtain ⟨gap, closing, tailRead⟩ := ih others
    refine ⟨gap, closing, ?_⟩
    rw [List.append_assoc, List.cons_append, List.append_assoc,
      outcome_otherMembers_next member _ blank first, head first (others.endsNumber rest)]
    exact tailRead
  | stop head =>
    obtain _ | ⟨blank, first, others⟩ := spells
    refine ⟨[], blank_nil, ?_⟩
    rw [List.append_assoc, List.cons_append, List.append_assoc,
      outcome_otherMembers_next member _ blank first, head first (others.endsNumber rest)]
    rfl

theorem outcome_members_close (room : levels ≠ 0) (member : σ → Reader σ) (state : σ)
    (blank : Blank gap) (rest : List Char) :
    (members levels member state).outcome ('\x7b' :: (gap ++ '\x7d' :: rest)) =
      .ok (state, '\x7d' :: rest) := by
  have closed : hasMember.outcome (gap ++ '\x7d' :: rest) = .ok (false, '\x7d' :: rest) := by
    rw [hasMember, outcome_peekVisible_bind blank rfl]
    rfl
  rw [members, outcome_enter_bind room]
  exact outcome_bind_ok closed

/-- The first member stands behind the brace without a comma. -/
theorem outcome_members_next (room : levels ≠ 0) (member : σ → Reader σ) (state : σ)
    (blank : Blank gap) (rest : List Char) :
    (members levels member state).outcome ('\x7b' :: (gap ++ '"' :: rest)) =
      ((member state).outcome ('"' :: rest)).bind fun first =>
        outcome (otherMembers member first.1) first.2 := by
  have named : hasMember.outcome (gap ++ '"' :: rest) = .ok (true, '"' :: rest) := by
    rw [hasMember, outcome_peekVisible_bind blank rfl]
    rfl
  rw [members, outcome_enter_bind room]
  exact (outcome_bind_ok named).trans (outcome_bind (member state) (otherMembers member))

/-- The members of an object are read up to its closing brace if a bracket more may be open. -/
theorem outcome_members (room : levels ≠ 0) (decodes : DecodesMembers member state all result)
    (spells : Spells (.object all) text) (rest : List Char) :
    ∃ gap behind closing, Blank gap ∧ Blank closing ∧ text = gap ++ '\x7b' :: behind ∧
      (members levels member state).outcome ('\x7b' :: (behind ++ rest)) =
        result.map (·, closing ++ '\x7d' :: rest) := by
  cases spells with
  | emptyObject blank empty =>
    cases decodes
    refine ⟨_, _, [], blank, blank_nil, rfl, ?_⟩
    rw [List.append_assoc]
    exact outcome_members_close room member state empty rest
  | @object _ _ _ _ tail blank first others =>
    obtain ⟨gap, behind, blank', rfl, trimmed⟩ := first.opens
    have ends := others.endsNumber rest
    have opened := outcome_members_next room member state blank' (behind ++ (tail ++ rest))
    cases decodes with
    | step head next =>
      obtain ⟨closing, closed, tailRead⟩ := outcome_otherMembers next others rest
      refine ⟨_, _, closing, blank, closed, rfl, ?_⟩
      rw [List.append_assoc, List.append_assoc, List.cons_append, opened, ← List.cons_append,
        head trimmed ends]
      exact tailRead
    | stop head =>
      refine ⟨_, _, [], blank, blank_nil, rfl, ?_⟩
      rw [List.append_assoc, List.append_assoc, List.cons_append, opened, ← List.cons_append,
        head trimmed ends]
      rfl

theorem outcome_closeObject (blank : Blank gap) :
    closeObject.outcome (gap ++ '\x7d' :: rest) = .ok ((), rest) := by
  rw [closeObject, outcome_peekVisible_bind blank rfl]
  rfl

/-- An object is read by its members, `next` dealing with what they leave and with the closing
brace. -/
theorem decodes_object {body : Char → Reader α} {next : σ → Reader α} (f : σ → α)
    (room : levels ≠ 0) (decodes : DecodesMembers member state all result)
    (brace : body '\x7b' = (members levels member state >>= next))
    (closes : ∀ last, result = .ok last → ∀ ⦃gap rest⦄, Blank gap →
      (next last).outcome (gap ++ '\x7d' :: rest) = .ok (f last, rest)) :
    Decodes (peekValue >>= body) (.object all) (result.map f) := by
  intro text rest spells ends
  obtain ⟨gap, behind, closing, blank, closed, rfl, membersRead⟩ :=
    outcome_members room decodes spells rest
  rw [List.append_assoc, List.cons_append, outcome_peekValue_bind blank rfl, brace, outcome_bind,
    membersRead]
  cases result with
  | error fault => rfl
  | ok last => exact closes last rfl closed

end Members

end Reader
end SnippetCheck.Json

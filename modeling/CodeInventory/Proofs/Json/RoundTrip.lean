import CodeInventory.Proofs.Json.Tokens

namespace CodeInventory.Json

theorem skipBlanks_cons {c : Char} (solid : isBlank c = false) (rest : List Char) :
    skipBlanks (c :: rest) = c :: rest := by
  simp [skipBlanks, solid]

theorem toList_newLine (level : Nat) :
    (newLine level).toList = '\n' :: List.replicate (2 * level) ' ' := by
  simp [newLine]

theorem skipBlanks_newLine (level : Nat) (rest : List Char) :
    skipBlanks ((newLine level).toList ++ rest) = skipBlanks rest := by
  have blank : ∀ c ∈ (newLine level).toList, isBlank c = true := by
    intro c member
    rw [toList_newLine] at member
    rcases List.mem_cons.1 member with rfl | member
    · rfl
    · rw [(List.mem_replicate.1 member).2]
      rfl
  exact List.dropWhile_append_of_pos blank

theorem ends_of_mark {c : Char} (mark : c = ',' ∨ c = '\n') (rest : List Char) :
    Ends (c :: rest) := by
  intro first member
  rw [List.head?_cons, Option.mem_some_iff] at member
  rcases mark with rfl | rfl <;> subst member <;> decide

theorem head_numberText (whole : Int) (places : Nat) :
    ∃ c others, (numberText whole places).toList = c :: others ∧ (c.isDigit = true ∨ c = '-') := by
  rw [toList_numberText]
  by_cases negative : whole < 0
  · exact ⟨'-', _, by rw [if_pos negative]; rfl, .inr rfl⟩
  · obtain ⟨first, others, split, digit⟩ := head_wholePart whole.natAbs places
    exact ⟨first, _, by rw [if_neg negative, split]; rfl, .inl digit⟩

theorem value?_of_head {c : Char} (noArray : c ≠ '[') (noObject : c ≠ '\x7b') (rest : List Char) :
    value? (c :: rest) =
      (((string? (c :: rest)).map fun found => (string found.1, found.2)).or
        (literal? (c :: rest))).or (number? (c :: rest)) := by
  rw [value?]
  · rintro others same
    exact noArray (List.cons.inj same).1
  · rintro others same
    exact noObject (List.cons.inj same).1

theorem value?_literal {word : String} {value : Json} (listed : (word, value) ∈ literals)
    (rest : List Char) : value? (word.toList ++ rest) = some (value, rest) := by
  simp only [literals, List.mem_cons, List.not_mem_nil, or_false, Prod.mk.injEq] at listed
  rcases listed with ⟨rfl, rfl⟩ | ⟨rfl, rfl⟩ | ⟨rfl, rfl⟩
  all_goals simp [value?_of_head, string?, literal?, literals, List.isPrefixOf?]

theorem value?_stringText (text : String) (rest : List Char) :
    value? ((stringText text).toList ++ rest) = some (string text, rest) := by
  have read := string?_stringText text rest
  obtain ⟨others, shape⟩ := head_stringText text
  rw [shape, List.cons_append] at read ⊢
  rw [value?_of_head (by decide) (by decide), read]
  rfl

theorem value?_numberText (whole : Int) (places : Nat) {rest : List Char} (ends : Ends rest) :
    value? ((numberText whole places).toList ++ rest) = some (number whole places, rest) := by
  have read := number?_numberText whole places ends
  obtain ⟨c, others, shape, lead⟩ := head_numberText whole places
  have excluded (other : Char) (noDigit : other.isDigit = false) (noMinus : other ≠ '-') :
      c ≠ other := by
    rintro rfl
    rcases lead with digit | minus
    · rw [digit] at noDigit
      exact Bool.noConfusion noDigit
    · exact noMinus minus
  rw [shape, List.cons_append] at read ⊢
  have noString : string? (c :: (others ++ rest)) = none := by
    rw [string?]
    rintro more same
    exact excluded '"' (by decide) (by decide) (List.cons.inj same).1
  have noLiteral : literal? (c :: (others ++ rest)) = none := by
    have n := excluded 'n' (by decide) (by decide)
    have t := excluded 't' (by decide) (by decide)
    have f := excluded 'f' (by decide) (by decide)
    simp [literal?, literals, List.isPrefixOf?, n.symm, t.symm, f.symm]
  rw [value?_of_head (excluded _ (by decide) (by decide)) (excluded _ (by decide) (by decide)),
    noString, noLiteral, read]
  rfl

theorem not_blank_of_number {c : Char} (lead : c.isDigit = true ∨ c = '-') : isBlank c = false := by
  rw [Bool.eq_false_iff]
  intro blank
  simp only [isBlank, Bool.or_eq_true, beq_iff_eq] at blank
  rcases blank with ((rfl | rfl) | rfl) | rfl <;> exact absurd lead (by decide)

theorem head_textAt (level : Nat) (value : Json) :
    ∃ c others, (textAt level value).toList = c :: others ∧ isBlank c = false ∧ c ≠ ']' := by
  cases value with
  | null => exact ⟨'n', "ull".toList, by simp [textAt], rfl, by decide⟩
  | boolean value =>
    cases value
    · exact ⟨'f', "alse".toList, by simp [textAt], rfl, by decide⟩
    · exact ⟨'t', "rue".toList, by simp [textAt], rfl, by decide⟩
  | number whole places =>
    obtain ⟨c, others, shape, lead⟩ := head_numberText whole places
    rw [textAt]
    refine ⟨c, others, shape, not_blank_of_number lead, ?_⟩
    rintro rfl
    exact absurd lead (by decide)
  | string text =>
    obtain ⟨others, shape⟩ := head_stringText text
    rw [textAt]
    exact ⟨'"', others, shape, rfl, by decide⟩
  | array items =>
    have shape : ∃ others, (textAt level (array items)).toList = '[' :: others := by
      cases items <;> simp [textAt]
    obtain ⟨others, shape⟩ := shape
    exact ⟨'[', others, shape, rfl, by decide⟩
  | object fields =>
    have shape : ∃ others, (textAt level (object fields)).toList = '\x7b' :: others := by
      cases fields <;> simp [textAt]
    obtain ⟨others, shape⟩ := shape
    exact ⟨'\x7b', others, shape, rfl, by decide⟩

def afterItem (level close : Nat) (others : List Json) (rest : List Char) : List Char :=
  (itemsAt level others).toList ++ ((newLine close).toList ++ ']' :: rest)

def afterField (level close : Nat) (others : List (String × Json)) (rest : List Char) : List Char :=
  (fieldsAt level others).toList ++ ((newLine close).toList ++ '\x7d' :: rest)

theorem afterItem_nil (level close : Nat) (rest : List Char) :
    afterItem level close [] rest = (newLine close).toList ++ ']' :: rest := by
  simp [afterItem, itemsAt]

theorem afterItem_cons (level close : Nat) (next : Json) (more : List Json) (rest : List Char) :
    afterItem level close (next :: more) rest =
      ',' :: ((newLine level).toList ++
        ((textAt level next).toList ++ afterItem level close more rest)) := by
  simp [afterItem, itemsAt]

theorem afterField_nil (level close : Nat) (rest : List Char) :
    afterField level close [] rest = (newLine close).toList ++ '\x7d' :: rest := by
  simp [afterField, fieldsAt]

theorem afterField_cons (level close : Nat) (key : String) (next : Json)
    (more : List (String × Json)) (rest : List Char) :
    afterField level close ((key, next) :: more) rest =
      ',' :: ((newLine level).toList ++ ((stringText key).toList ++
        ':' :: ' ' :: ((textAt level next).toList ++ afterField level close more rest))) := by
  simp [afterField, fieldsAt]

theorem ends_newLine (level : Nat) (rest : List Char) : Ends ((newLine level).toList ++ rest) := by
  rw [toList_newLine]
  exact ends_of_mark (.inr rfl) _

theorem ends_afterItem (level close : Nat) (others : List Json) (rest : List Char) :
    Ends (afterItem level close others rest) := by
  cases others with
  | nil => rw [afterItem_nil]; exact ends_newLine close _
  | cons next more => rw [afterItem_cons]; exact ends_of_mark (.inl rfl) _

theorem ends_afterField (level close : Nat) (others : List (String × Json)) (rest : List Char) :
    Ends (afterField level close others rest) := by
  cases others with
  | nil => rw [afterField_nil]; exact ends_newLine close _
  | cons next more => rw [afterField_cons]; exact ends_of_mark (.inl rfl) _

theorem skipBlanks_before_value (level indent : Nat) (value : Json) (rest : List Char) :
    skipBlanks ((newLine level).toList ++ ((textAt indent value).toList ++ rest)) =
      (textAt indent value).toList ++ rest := by
  obtain ⟨c, others, shape, solid, _⟩ := head_textAt indent value
  rw [skipBlanks_newLine, shape, List.cons_append, skipBlanks_cons solid]

theorem skipBlanks_before_key (level : Nat) (key : String) (rest : List Char) :
    skipBlanks ((newLine level).toList ++ ((stringText key).toList ++ rest)) =
      (stringText key).toList ++ rest := by
  obtain ⟨others, shape⟩ := head_stringText key
  rw [skipBlanks_newLine, shape, List.cons_append, skipBlanks_cons rfl]

theorem items?_last {text rest : List Char} {close : Nat} {item : Json}
    (read : value? text = some (item, (newLine close).toList ++ ']' :: rest)) :
    items? text = some ([item], rest) := by
  have closed : skipBlanks ((newLine close).toList ++ ']' :: rest) = ']' :: rest := by
    rw [skipBlanks_newLine, skipBlanks_cons rfl]
  rw [items?, read]
  simp only [closed]

theorem items?_next {text more rest : List Char} {item : Json} {others : List Json}
    (read : value? text = some (item, ',' :: more))
    (shorter : (skipBlanks more).length < text.length)
    (tail : items? (skipBlanks more) = some (others, rest)) :
    items? text = some (item :: others, rest) := by
  have comma : skipBlanks (',' :: more) = ',' :: more := skipBlanks_cons rfl _
  rw [items?, read]
  simp only [comma, if_pos shorter, tail, Option.map_some]

theorem fields?_last {text start rest : List Char} {close : Nat} {key : String} {value : Json}
    (named : key? text = some (key, start)) (shorter : start.length < text.length)
    (read : value? start = some (value, (newLine close).toList ++ '\x7d' :: rest)) :
    fields? text = some ([(key, value)], rest) := by
  have closed : skipBlanks ((newLine close).toList ++ '\x7d' :: rest) = '\x7d' :: rest := by
    rw [skipBlanks_newLine, skipBlanks_cons rfl]
  rw [fields?, named]
  simp only [if_pos shorter, read, closed]

theorem fields?_next {text start more rest : List Char} {key : String} {value : Json}
    {others : List (String × Json)} (named : key? text = some (key, start))
    (first : start.length < text.length) (read : value? start = some (value, ',' :: more))
    (second : (skipBlanks more).length < text.length)
    (tail : fields? (skipBlanks more) = some (others, rest)) :
    fields? text = some ((key, value) :: others, rest) := by
  have comma : skipBlanks (',' :: more) = ',' :: more := skipBlanks_cons rfl _
  rw [fields?, named]
  simp only [if_pos first, read, comma, if_pos second, tail, Option.map_some]

theorem key?_stringText (key : String) (level : Nat) (value : Json) (rest : List Char) :
    key? ((stringText key).toList ++ (':' :: ' ' :: ((textAt level value).toList ++ rest))) =
      some (key, (textAt level value).toList ++ rest) := by
  obtain ⟨c, others, shape, solid, _⟩ := head_textAt level value
  have colon : skipBlanks (':' :: ' ' :: ((textAt level value).toList ++ rest)) =
      ':' :: ' ' :: ((textAt level value).toList ++ rest) := skipBlanks_cons rfl _
  have blank : skipBlanks (' ' :: ((textAt level value).toList ++ rest)) =
      (textAt level value).toList ++ rest := by
    rw [shape, List.cons_append]
    exact skipBlanks_cons solid (others ++ rest)
  rw [key?, string?_stringText, Option.bind_some]
  simp only [colon, blank]

/-- Every value is made of values of which the same can be said. -/
theorem member_induction {motive : Json → Prop} (null : motive null)
    (boolean : ∀ value, motive (boolean value))
    (number : ∀ whole places, motive (number whole places))
    (string : ∀ text, motive (string text))
    (array : ∀ items, (∀ item ∈ items, motive item) → motive (array items))
    (object : ∀ fields, (∀ field ∈ fields, motive field.2) → motive (object fields))
    (value : Json) : motive value :=
  match value with
  | .null => null
  | .boolean value => boolean value
  | .number whole places => number whole places
  | .string text => string text
  | .array items => array items fun item _ =>
      member_induction null boolean number string array object item
  | .object fields => object fields fun field _ =>
      member_induction null boolean number string array object field.2
termination_by sizeOf value
decreasing_by
  · have smaller := List.sizeOf_lt_of_mem ‹_›
    simp only [Json.array.sizeOf_spec]
    omega
  · have smaller := List.sizeOf_lt_of_mem ‹_›
    obtain ⟨key, value⟩ := field
    simp only [Prod.mk.sizeOf_spec, Json.object.sizeOf_spec] at smaller ⊢
    omega

def Readable (value : Json) : Prop :=
  ∀ (level : Nat) (rest : List Char), Ends rest →
    value? ((textAt level value).toList ++ rest) = some (value, rest)

theorem items?_afterItem {item : Json} {others : List Json}
    (readable : ∀ value ∈ item :: others, Readable value) (level close : Nat) (rest : List Char) :
    items? ((textAt level item).toList ++ afterItem level close others rest) =
      some (item :: others, rest) := by
  induction others generalizing item with
  | nil =>
    have read := readable item (List.mem_cons_self ..) level _ (ends_afterItem level close [] rest)
    rw [afterItem_nil] at read ⊢
    exact items?_last read
  | cons next more ih =>
    have read := readable item (List.mem_cons_self ..) level _
      (ends_afterItem level close (next :: more) rest)
    have tail := ih fun value member => readable value (List.mem_cons_of_mem _ member)
    rw [← skipBlanks_before_value level level] at tail
    rw [afterItem_cons] at read ⊢
    refine items?_next read ?_ tail
    rw [skipBlanks_before_value]
    simp only [List.length_append, List.length_cons]
    omega

theorem fields?_afterField {key : String} {value : Json} {others : List (String × Json)}
    (readable : ∀ field ∈ (key, value) :: others, Readable field.2) (level close : Nat)
    (rest : List Char) :
    fields? ((stringText key).toList ++ ':' :: ' ' :: ((textAt level value).toList ++
      afterField level close others rest)) = some ((key, value) :: others, rest) := by
  induction others generalizing key value with
  | nil =>
    have read := readable (key, value) (List.mem_cons_self ..) level _
      (ends_afterField level close [] rest)
    have named := key?_stringText key level value (afterField level close [] rest)
    rw [afterField_nil] at read named ⊢
    refine fields?_last named ?_ read
    simp only [List.length_append, List.length_cons]
    omega
  | cons field more ih =>
    obtain ⟨next, nextValue⟩ := field
    have read := readable (key, value) (List.mem_cons_self ..) level _
      (ends_afterField level close ((next, nextValue) :: more) rest)
    have named := key?_stringText key level value
      (afterField level close ((next, nextValue) :: more) rest)
    have tail := ih fun field member => readable field (List.mem_cons_of_mem _ member)
    rw [← skipBlanks_before_key level] at tail
    rw [afterField_cons] at read named ⊢
    refine fields?_next named ?_ read ?_ tail
    · simp only [List.length_append, List.length_cons]
      omega
    · rw [skipBlanks_before_key]
      simp only [List.length_append, List.length_cons]
      omega

theorem readable_array {items : List Json} (readable : ∀ item ∈ items, Readable item) :
    Readable (array items) := by
  intro level rest ends
  cases items with
  | nil =>
    have shape : (textAt level (array [])).toList ++ rest = '[' :: ']' :: rest := by simp [textAt]
    rw [shape, value?, skipBlanks_cons rfl]
    simp
  | cons item others =>
    have shape : (textAt level (array (item :: others))).toList ++ rest =
        '[' :: ((newLine (level + 1)).toList ++ ((textAt (level + 1) item).toList ++
          afterItem (level + 1) level others rest)) := by
      simp [textAt, afterItem]
    obtain ⟨c, more, start, _, unclosed⟩ := head_textAt (level + 1) item
    rw [shape, value?, skipBlanks_before_value, if_neg (by simp [start, unclosed]),
      items?_afterItem readable, Option.map_some]

theorem readable_object {fields : List (String × Json)}
    (readable : ∀ field ∈ fields, Readable field.2) : Readable (object fields) := by
  intro level rest ends
  cases fields with
  | nil =>
    have shape : (textAt level (object [])).toList ++ rest = '\x7b' :: '\x7d' :: rest := by
      simp [textAt]
    rw [shape, value?, skipBlanks_cons rfl]
    simp
  | cons field others =>
    obtain ⟨key, value⟩ := field
    have shape : (textAt level (object ((key, value) :: others))).toList ++ rest =
        '\x7b' :: ((newLine (level + 1)).toList ++ ((stringText key).toList ++ ':' :: ' ' ::
          ((textAt (level + 1) value).toList ++ afterField (level + 1) level others rest))) := by
      simp [textAt, afterField]
    rw [shape, value?, skipBlanks_before_key, if_neg (by simp [stringText]),
      fields?_afterField readable, Option.map_some]

theorem readable (value : Json) : Readable value := by
  induction value using member_induction with
  | null =>
    intro level rest _
    rw [textAt]
    exact value?_literal (by simp [literals]) rest
  | boolean value =>
    intro level rest _
    rw [textAt]
    cases value <;> exact value?_literal (by simp [literals]) rest
  | number whole places =>
    intro level rest ends
    rw [textAt]
    exact value?_numberText whole places ends
  | string text =>
    intro level rest _
    rw [textAt]
    exact value?_stringText text rest
  | array items ih => exact readable_array ih
  | object fields ih => exact readable_object ih

theorem read?_text (value : Json) : read? value.text = some value := by
  obtain ⟨c, others, shape, solid, _⟩ := head_textAt 0 value
  have start : skipBlanks value.text.toList = (textAt 0 value).toList ++ [] := by
    rw [text, shape, skipBlanks_cons solid, List.append_nil]
  have nothing : Ends [] := by
    intro c member
    cases member
  rw [read?, start, readable value 0 [] nothing]
  rfl

end CodeInventory.Json
